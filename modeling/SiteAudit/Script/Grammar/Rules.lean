import SiteAudit.Script.Grammar.Rule
/-!
# The grammar of scripts

The rules of ECMAScript with markup elements as expressions.  Statements end with a semicolon that
may be left out; the token for that is found by the layout of the text.

* `rules` lists all rules; the first one is that of a whole script.
* `inlined` names the rules that are written out where they are used, `hidden` those whose matches
  are no nodes of a tree.
* `orders` are the orders of precedence, tightest first.
* `reservedWords` cannot be names, except of properties.
-/
namespace SiteAudit.Script

open SiteAudit.Script.Rule

/-- The end of a statement. -/
def semicolon : Rule := ref "_semicolon"

def expression : Rule := ref "expression"

def expressions : Rule := ref "_expressions"

def statement : Rule := ref "statement"

def identifier : Rule := ref "identifier"

def block : Rule := ref "statement_block"

/-! ## Modules -/

def moduleRules : List Definition := [
  ⟨"program", seq (optional (ref "hash_bang_line")) (any statement)⟩,
  ⟨"hash_bang_line", ref "hash_bang_line"⟩,
  ⟨"export_statement", choice
    (all [lit "export",
      oneOf [
        seq (lit "*") (ref "_from_clause"),
        seq (ref "namespace_export") (ref "_from_clause"),
        seq (ref "export_clause") (ref "_from_clause"),
        ref "export_clause"],
      semicolon])
    (all [any (ref "decorator"), lit "export",
      choice (ref "declaration")
        (seq (lit "default") (choice (ref "declaration") (seq expression semicolon)))])⟩,
  ⟨"namespace_export", all [lit "*", lit "as", ref "_module_export_name"]⟩,
  ⟨"export_clause",
    all [lit "\x7b", commas (ref "export_specifier"), optional (lit ","), lit "\x7d"]⟩,
  ⟨"export_specifier",
    seq (ref "_module_export_name") (optional (seq (lit "as") (ref "_module_export_name")))⟩,
  ⟨"_module_export_name", oneOf [identifier, ref "string", lit "default"]⟩,
  ⟨"declaration", oneOf [ref "function_declaration", ref "generator_function_declaration",
    ref "class_declaration", ref "lexical_declaration", ref "variable_declaration",
    ref "using_declaration"]⟩,
  ⟨"import", lit "import"⟩,
  ⟨"import_statement", all [lit "import",
    choice (seq (ref "import_clause") (ref "_from_clause")) (ref "string"),
    optional (ref "import_attribute"), semicolon]⟩,
  ⟨"import_clause", oneOf [ref "namespace_import", ref "named_imports",
    seq identifier
      (optional (seq (lit ",") (choice (ref "namespace_import") (ref "named_imports"))))]⟩,
  ⟨"_from_clause", seq (lit "from") (ref "string")⟩,
  ⟨"namespace_import", all [lit "*", lit "as", identifier]⟩,
  ⟨"named_imports",
    all [lit "\x7b", commas (ref "import_specifier"), optional (lit ","), lit "\x7d"]⟩,
  ⟨"import_specifier", choice identifier
    (all [choice (ref "_module_export_name") (called "identifier" (lit "default")), lit "as",
      identifier])⟩,
  ⟨"import_attribute", seq (lit "with") (ref "object")⟩]

/-! ## Statements -/

def statementRules : List Definition := [
  ⟨"statement", oneOf [ref "export_statement", ref "import_statement", ref "debugger_statement",
    ref "expression_statement", ref "declaration", block, ref "if_statement",
    ref "switch_statement", ref "for_statement", ref "for_in_statement", ref "while_statement",
    ref "do_statement", ref "try_statement", ref "with_statement", ref "break_statement",
    ref "continue_statement", ref "return_statement", ref "throw_statement",
    ref "empty_statement", ref "labeled_statement"]⟩,
  ⟨"expression_statement", seq expressions semicolon⟩,
  ⟨"variable_declaration", all [lit "var", commas1 (ref "variable_declarator"), semicolon]⟩,
  ⟨"lexical_declaration",
    all [words ["let", "const"], commas1 (ref "variable_declarator"), semicolon]⟩,
  ⟨"using_declaration",
    all [choice (lit "using") (seq (lit "await") (lit "using")),
      commas1 (ref "variable_declarator"), semicolon]⟩,
  ⟨"variable_declarator",
    seq (choice identifier (ref "_destructuring_pattern")) (optional (ref "_initializer"))⟩,
  ⟨"statement_block", rightward (all [lit "\x7b", any statement, lit "\x7d",
    optional (ref "_automatic_semicolon")])⟩,
  ⟨"else_clause", seq (lit "else") statement⟩,
  ⟨"if_statement", rightward (all [lit "if", ref "parenthesized_expression", statement,
    optional (ref "else_clause")])⟩,
  ⟨"switch_statement", all [lit "switch", ref "parenthesized_expression", ref "switch_body"]⟩,
  ⟨"for_statement", all [lit "for", lit "(",
    oneOf [choice (ref "lexical_declaration") (ref "variable_declaration"),
      seq expressions (lit ";"), ref "empty_statement"],
    choice (seq expressions (lit ";")) (ref "empty_statement"),
    optional expressions, lit ")", statement]⟩,
  ⟨"for_in_statement", all [lit "for", optional (lit "await"), ref "_for_header", statement]⟩,
  ⟨"_for_header", all [lit "(",
    oneOf [
      choice (ref "_lhs_expression") (ref "parenthesized_expression"),
      all [lit "var", choice identifier (ref "_destructuring_pattern"),
        optional (ref "_initializer")],
      all [words ["let", "const"], choice identifier (ref "_destructuring_pattern"),
        optional (ref "_automatic_semicolon")]],
    words ["in", "of"], expressions, lit ")"]⟩,
  ⟨"while_statement", all [lit "while", ref "parenthesized_expression", statement]⟩,
  ⟨"do_statement", rightward (all [lit "do", statement, lit "while",
    ref "parenthesized_expression", optional semicolon])⟩,
  ⟨"try_statement", all [lit "try", block, optional (ref "catch_clause"),
    optional (ref "finally_clause")]⟩,
  ⟨"with_statement", all [lit "with", ref "parenthesized_expression", statement]⟩,
  ⟨"break_statement",
    all [lit "break", optional (called "statement_identifier" identifier), semicolon]⟩,
  ⟨"continue_statement",
    all [lit "continue", optional (called "statement_identifier" identifier), semicolon]⟩,
  ⟨"debugger_statement", seq (lit "debugger") semicolon⟩,
  ⟨"return_statement", all [lit "return", optional expressions, semicolon]⟩,
  ⟨"throw_statement", all [lit "throw", expressions, semicolon]⟩,
  ⟨"empty_statement", lit ";"⟩,
  ⟨"labeled_statement", weight (-1) (all [
    called "statement_identifier" (choice identifier (ref "_reserved_identifier")), lit ":",
    statement])⟩,
  ⟨"switch_body", all [lit "\x7b", any (choice (ref "switch_case") (ref "switch_default")),
    lit "\x7d"]⟩,
  ⟨"switch_case", all [lit "case", expressions, lit ":", any statement]⟩,
  ⟨"switch_default", all [lit "default", lit ":", any statement]⟩,
  ⟨"catch_clause", all [lit "catch",
    optional (all [lit "(", choice identifier (ref "_destructuring_pattern"), lit ")"]), block]⟩,
  ⟨"finally_clause", seq (lit "finally") block⟩,
  ⟨"parenthesized_expression", all [lit "(", expressions, lit ")"]⟩]

/-! ## Expressions -/

def expressionRules : List Definition := [
  ⟨"_expressions", choice expression (ref "sequence_expression")⟩,
  ⟨"expression", oneOf [ref "primary_expression", ref "_jsx_element", ref "assignment_expression",
    ref "augmented_assignment_expression", ref "await_expression", ref "unary_expression",
    ref "binary_expression", ref "ternary_expression", ref "update_expression",
    ref "new_expression", ref "yield_expression"]⟩,
  ⟨"primary_expression", oneOf [ref "subscript_expression", ref "member_expression",
    ref "parenthesized_expression", ref "_identifier",
    called "identifier" (ref "_reserved_identifier"), ref "this", ref "super", ref "number",
    ref "string", ref "template_string", ref "regex", ref "true", ref "false", ref "null",
    ref "object", ref "array", ref "function_expression", ref "arrow_function",
    ref "generator_function", ref "class", ref "meta_property", ref "call_expression"]⟩,
  ⟨"yield_expression", rightward (seq (lit "yield")
    (choice (seq (lit "*") expression) (optional expression)))⟩,
  ⟨"object", prec "object" (all [lit "\x7b",
    commas (optional (oneOf [ref "pair", ref "spread_element", ref "method_definition",
      called "shorthand_property_identifier" (choice identifier (ref "_reserved_identifier"))])),
    lit "\x7d"])⟩,
  ⟨"object_pattern", prec "object" (all [lit "\x7b",
    commas (optional (oneOf [ref "pair_pattern", ref "rest_pattern",
      ref "object_assignment_pattern",
      called "shorthand_property_identifier_pattern"
        (choice identifier (ref "_reserved_identifier"))])),
    lit "\x7d"])⟩,
  ⟨"assignment_pattern", all [ref "pattern", lit "=", expression]⟩,
  ⟨"object_assignment_pattern", all [
    choice
      (called "shorthand_property_identifier_pattern"
        (choice (ref "_reserved_identifier") identifier))
      (ref "_destructuring_pattern"),
    lit "=", expression]⟩,
  ⟨"array", all [lit "[", commas (optional (choice expression (ref "spread_element"))), lit "]"]⟩,
  ⟨"array_pattern",
    all [lit "[", commas (optional (choice (ref "pattern") (ref "assignment_pattern"))), lit "]"]⟩]

/-! ## Markup elements -/

def elementRules : List Definition := [
  ⟨"_jsx_element", choice (ref "jsx_element") (ref "jsx_self_closing_element")⟩,
  ⟨"jsx_element", all [ref "jsx_opening_element", any (ref "_jsx_child"),
    ref "jsx_closing_element"]⟩,
  ⟨"html_character_reference", ref "html_character_reference"⟩,
  ⟨"jsx_expression", all [lit "\x7b",
    optional (oneOf [expression, ref "sequence_expression", ref "spread_element"]), lit "\x7d"]⟩,
  ⟨"_jsx_child", oneOf [ref "jsx_text", ref "html_character_reference", ref "_jsx_element",
    ref "jsx_expression"]⟩,
  ⟨"jsx_opening_element", weight (-1) (all [lit "<",
    optional (seq (ref "_jsx_element_name") (any (ref "_jsx_attribute"))), lit ">"])⟩,
  ⟨"jsx_identifier", ref "jsx_identifier"⟩,
  ⟨"_jsx_identifier", choice (called "identifier" (ref "jsx_identifier")) identifier⟩,
  ⟨"nested_identifier", prec "member" (all [
    choice identifier (called "member_expression" (ref "nested_identifier")), lit ".",
    called "property_identifier" identifier])⟩,
  ⟨"jsx_namespace_name", all [ref "_jsx_identifier", lit ":", ref "_jsx_identifier"]⟩,
  ⟨"_jsx_element_name", oneOf [ref "_jsx_identifier",
    called "member_expression" (ref "nested_identifier"), ref "jsx_namespace_name"]⟩,
  ⟨"jsx_closing_element", all [lit "</", optional (ref "_jsx_element_name"), lit ">"]⟩,
  ⟨"jsx_self_closing_element", all [lit "<", ref "_jsx_element_name", any (ref "_jsx_attribute"),
    lit "/>"]⟩,
  ⟨"_jsx_attribute", choice (ref "jsx_attribute") (ref "jsx_expression")⟩,
  ⟨"_jsx_attribute_name",
    choice (called "property_identifier" (ref "_jsx_identifier")) (ref "jsx_namespace_name")⟩,
  ⟨"jsx_attribute", seq (ref "_jsx_attribute_name")
    (optional (seq (lit "=") (ref "_jsx_attribute_value")))⟩,
  ⟨"_jsx_string", choice
    (all [lit "\"",
      any (choice (ref "unescaped_double_jsx_string_fragment") (ref "html_character_reference")),
      lit "\""])
    (all [lit "'",
      any (choice (ref "unescaped_single_jsx_string_fragment") (ref "html_character_reference")),
      lit "'"])⟩,
  ⟨"unescaped_double_jsx_string_fragment", ref "unescaped_double_jsx_string_fragment"⟩,
  ⟨"unescaped_single_jsx_string_fragment", ref "unescaped_single_jsx_string_fragment"⟩,
  ⟨"_jsx_attribute_value", oneOf [called "string" (ref "_jsx_string"), ref "jsx_expression",
    ref "_jsx_element"]⟩]

/-! ## Classes, functions and operators -/

/-- The binary operators with their precedence. -/
def binaryOperators : List (String × String) := [
  ("&&", "logical_and"), ("||", "logical_or"), (">>", "binary_shift"), (">>>", "binary_shift"),
  ("<<", "binary_shift"), ("&", "bitwise_and"), ("^", "bitwise_xor"), ("|", "bitwise_or"),
  ("+", "binary_plus"), ("-", "binary_plus"), ("*", "binary_times"), ("/", "binary_times"),
  ("%", "binary_times"), ("**", "binary_exp"), ("<", "binary_relation"),
  ("<=", "binary_relation"), ("==", "binary_equality"), ("===", "binary_equality"),
  ("!=", "binary_equality"), ("!==", "binary_equality"), (">=", "binary_relation"),
  (">", "binary_relation"), ("??", "ternary"), ("instanceof", "binary_relation"),
  ("in", "binary_relation")]

/-- The rule of one binary operator.  Only powers lean to the right, and only membership has private
names on its left. -/
def binary (operator level : String) : Rule :=
  let left := if operator = "in" then choice expression (ref "private_property_identifier")
    else expression
  let whole := all [left, lit operator, expression]
  if operator = "**" then precRight level whole else precLeft level whole

def functionRules : List Definition := [
  ⟨"class", prec "literal" (all [any (ref "decorator"), lit "class", optional identifier,
    optional (ref "class_heritage"), ref "class_body"])⟩,
  ⟨"class_declaration", prec "declare" (all [any (ref "decorator"), lit "class", identifier,
    optional (ref "class_heritage"), ref "class_body", optional (ref "_automatic_semicolon")])⟩,
  ⟨"class_heritage", seq (lit "extends") expression⟩,
  ⟨"function_expression", prec "literal" (all [optional (lit "async"), lit "function",
    optional identifier, ref "_call_signature", block])⟩,
  ⟨"function_declaration", prec "declare" (all [optional (lit "async"), lit "function", identifier,
    ref "_call_signature", block, optional (ref "_automatic_semicolon")])⟩,
  ⟨"generator_function", prec "literal" (all [optional (lit "async"), lit "function", lit "*",
    optional identifier, ref "_call_signature", block])⟩,
  ⟨"generator_function_declaration", prec "declare" (all [optional (lit "async"), lit "function",
    lit "*", identifier, ref "_call_signature", block, optional (ref "_automatic_semicolon")])⟩,
  ⟨"arrow_function", all [optional (lit "async"),
    choice (choice (called "identifier" (ref "_reserved_identifier")) identifier)
      (ref "_call_signature"),
    lit "=>", choice expression block]⟩,
  ⟨"_call_signature", ref "formal_parameters"⟩,
  ⟨"_formal_parameter", choice (ref "pattern") (ref "assignment_pattern")⟩,
  ⟨"optional_chain", ref "optional_chain"⟩,
  ⟨"call_expression", oneOf [
    prec "call" (seq (choice expression (ref "import")) (ref "arguments")),
    prec "template_call" (seq (choice (ref "primary_expression") (ref "new_expression"))
      (ref "template_string")),
    prec "member" (all [ref "primary_expression", ref "optional_chain", ref "arguments"])]⟩,
  ⟨"new_expression", precRight "new" (all [lit "new",
    choice (ref "primary_expression") (ref "new_expression"),
    optional (weight 1 (ref "arguments"))])⟩,
  ⟨"await_expression", prec "unary_void" (seq (lit "await") expression)⟩,
  ⟨"member_expression", prec "member" (all [
    oneOf [expression, ref "primary_expression", ref "import"],
    choice (lit ".") (ref "optional_chain"),
    choice (ref "private_property_identifier")
      (property (called "property_identifier" identifier))])⟩,
  ⟨"subscript_expression", precRight "member" (all [
    choice expression (ref "primary_expression"), optional (ref "optional_chain"), lit "[",
    expressions, lit "]"])⟩,
  ⟨"_lhs_expression", oneOf [ref "member_expression", ref "subscript_expression",
    ref "_identifier", called "identifier" (ref "_reserved_identifier"),
    ref "_destructuring_pattern"]⟩,
  ⟨"assignment_expression", precRight "assign" (all [
    choice (ref "parenthesized_expression") (ref "_lhs_expression"), lit "=", expression])⟩,
  ⟨"_augmented_assignment_lhs", oneOf [ref "member_expression", ref "subscript_expression",
    called "identifier" (ref "_reserved_identifier"), identifier,
    ref "parenthesized_expression"]⟩,
  ⟨"augmented_assignment_expression", precRight "assign" (all [ref "_augmented_assignment_lhs",
    words ["+=", "-=", "*=", "/=", "%=", "^=", "&=", "|=", ">>=", ">>>=", "<<=", "**=", "&&=",
      "||=", "??="],
    expression])⟩,
  ⟨"_initializer", seq (lit "=") expression⟩,
  ⟨"_destructuring_pattern", choice (ref "object_pattern") (ref "array_pattern")⟩,
  ⟨"spread_element", seq (lit "...") expression⟩,
  ⟨"ternary_expression", precRight "ternary" (all [expression, ref "_ternary_qmark", expression,
    lit ":", expression])⟩,
  ⟨"binary_expression",
    oneOf (binaryOperators.map (fun (operator, level) => binary operator level))⟩,
  ⟨"unary_expression", precLeft "unary_void" (seq
    (words ["!", "~", "-", "+", "typeof", "void", "delete"]) expression)⟩,
  ⟨"update_expression", leftward (choice
    (seq expression (words ["++", "--"]))
    (seq (words ["++", "--"]) expression))⟩,
  ⟨"sequence_expression", rightward (commas1 expression)⟩]

/-! ## Literals and members -/

def literalRules : List Definition := [
  ⟨"string", choice
    (all [lit "\"",
      any (choice (ref "unescaped_double_string_fragment") (ref "escape_sequence")), lit "\""])
    (all [lit "'",
      any (choice (ref "unescaped_single_string_fragment") (ref "escape_sequence")), lit "'"])⟩,
  ⟨"unescaped_double_string_fragment", ref "unescaped_double_string_fragment"⟩,
  ⟨"unescaped_single_string_fragment", ref "unescaped_single_string_fragment"⟩,
  ⟨"escape_sequence", ref "escape_sequence"⟩,
  ⟨"comment", ref "comment"⟩,
  ⟨"template_string", all [lit "`",
    any (oneOf [ref "_template_chars", ref "escape_sequence", ref "template_substitution"]),
    lit "`"]⟩,
  ⟨"template_substitution", all [lit "$\x7b", expressions, lit "\x7d"]⟩,
  ⟨"regex", all [lit "/", ref "regex_pattern", ref "regex_close", optional (ref "regex_flags")]⟩,
  ⟨"regex_pattern", ref "regex_pattern"⟩,
  ⟨"regex_flags", ref "regex_flags"⟩,
  ⟨"number", ref "number"⟩,
  ⟨"_identifier", choice (ref "undefined") identifier⟩,
  ⟨"identifier", identifier⟩,
  ⟨"private_property_identifier", ref "private_property_identifier"⟩,
  ⟨"meta_property", choice (all [lit "new", lit ".", lit "target"])
    (all [lit "import", lit ".", lit "meta"])⟩,
  ⟨"this", ref "this"⟩,
  ⟨"super", ref "super"⟩,
  ⟨"true", ref "true"⟩,
  ⟨"false", ref "false"⟩,
  ⟨"null", ref "null"⟩,
  ⟨"undefined", ref "undefined"⟩,
  ⟨"arguments",
    all [lit "(", commas (optional (choice expression (ref "spread_element"))), lit ")"]⟩,
  ⟨"decorator", seq (lit "@") (oneOf [identifier,
    called "member_expression" (ref "decorator_member_expression"),
    called "call_expression" (ref "decorator_call_expression")])⟩,
  ⟨"decorator_member_expression", prec "member" (all [
    choice identifier (called "member_expression" (ref "decorator_member_expression")), lit ".",
    called "property_identifier" identifier])⟩,
  ⟨"decorator_call_expression", prec "call" (seq
    (choice identifier (called "member_expression" (ref "decorator_member_expression")))
    (ref "arguments"))⟩,
  ⟨"class_body", all [lit "\x7b",
    any (oneOf [
      seq (ref "method_definition") (optional (lit ";")),
      seq (ref "field_definition") semicolon,
      ref "class_static_block",
      lit ";"]),
    lit "\x7d"]⟩,
  ⟨"field_definition", all [any (ref "decorator"), optional (lit "static"), ref "_property_name",
    optional (ref "_initializer")]⟩,
  ⟨"formal_parameters", all [lit "(",
    optional (seq (commas1 (ref "_formal_parameter")) (optional (lit ","))), lit ")"]⟩,
  ⟨"class_static_block", seq (lit "static") block⟩,
  ⟨"pattern", weight (-1) (choice (ref "_lhs_expression") (ref "rest_pattern"))⟩,
  ⟨"rest_pattern", rightward (seq (lit "...") (ref "_lhs_expression"))⟩,
  ⟨"method_definition", all [any (ref "decorator"),
    optional (choice (lit "static") (ref "static get")), optional (lit "async"),
    optional (words ["get", "set", "*"]), ref "_property_name", ref "formal_parameters", block]⟩,
  ⟨"pair", all [ref "_property_name", lit ":", expression]⟩,
  ⟨"pair_pattern", all [ref "_property_name", lit ":",
    choice (ref "pattern") (ref "assignment_pattern")]⟩,
  ⟨"_property_name", property (oneOf [
    called "property_identifier" (choice identifier (ref "_reserved_identifier")),
    ref "private_property_identifier", ref "string", ref "number",
    ref "computed_property_name"])⟩,
  ⟨"computed_property_name", all [lit "[", expression, lit "]"]⟩,
  ⟨"_reserved_identifier", words ["get", "set", "async", "static", "export", "let"]⟩,
  ⟨"_semicolon", choice (ref "_automatic_semicolon") (lit ";")⟩]

/-- All rules; the first one is that of a whole script. -/
def rules : List Definition :=
  moduleRules ++ statementRules ++ expressionRules ++ elementRules ++ functionRules ++ literalRules

/-! ## Properties of rules -/

/-- Rules that are written out where they are used. -/
def inlined : List String :=
  ["_call_signature", "_formal_parameter", "_expressions", "_semicolon", "_identifier",
   "_reserved_identifier", "_jsx_attribute", "_jsx_element_name", "_jsx_child", "_jsx_element",
   "_jsx_attribute_name", "_jsx_attribute_value", "_jsx_identifier", "_lhs_expression"]

/-- Rules that only group others. -/
def groups : List String :=
  ["statement", "declaration", "expression", "primary_expression", "pattern"]

/-- The orders of precedence, tightest first. -/
def orders : List (List Rank) := [
  [.level "member", .level "template_call", .level "call", .rule "update_expression",
   .level "unary_void", .level "binary_exp", .level "binary_times", .level "binary_plus",
   .level "binary_shift", .level "binary_compare", .level "binary_relation",
   .level "binary_equality", .level "bitwise_and", .level "bitwise_xor", .level "bitwise_or",
   .level "logical_and", .level "logical_or", .level "ternary", .rule "sequence_expression",
   .rule "arrow_function"],
  [.level "assign", .rule "primary_expression"],
  [.level "member", .level "template_call", .level "new", .level "call", .rule "expression"],
  [.level "declare", .level "literal"],
  [.rule "primary_expression", .rule "statement_block", .level "object"],
  [.rule "meta_property", .rule "import"],
  [.rule "import_statement", .rule "import"],
  [.rule "export_statement", .rule "primary_expression"],
  [.rule "lexical_declaration", .rule "primary_expression"]]

/-- Words that cannot be names. -/
def reservedWords : List String :=
  ["break", "case", "catch", "class", "const", "continue", "debugger", "default", "delete", "do",
   "else", "export", "extends", "false", "finally", "for", "function", "if", "import", "in",
   "instanceof", "new", "null", "return", "super", "switch", "this", "throw", "true", "try",
   "typeof", "var", "void", "while", "with"]

end SiteAudit.Script
