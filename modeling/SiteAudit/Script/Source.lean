import SiteAudit.Text.Utf8
/-!
# Texts of scripts

A text is kept with all of its ends, so that what follows a place can be read at once, and with the
bytes and lines before each place.
-/
namespace SiteAudit.Script

/-- A text, prepared for reading from any place. -/
structure Source where
  /-- What follows each place. -/
  tails : Array (List Char)
  /-- How many bytes stand before each place. -/
  bytes : Array Nat
  /-- How many lines end before each place. -/
  rows : Array Nat
  /-- The bytes before the line that each place is on. -/
  lineStarts : Array Nat

namespace Source

/-- How many bytes a character takes. -/
def width (c : Char) : Nat := (Text.Utf8.encode [c]).length

/-- Goes through a text and notes every place. -/
def ofChars (source : Source) (bytes row lineStart : Nat) : List Char → Source
  | [] => { source with
      tails := source.tails.push [], bytes := source.bytes.push bytes, rows := source.rows.push row
      lineStarts := source.lineStarts.push lineStart }
  | c :: r =>
    let source := { source with
      tails := source.tails.push (c :: r), bytes := source.bytes.push bytes
      rows := source.rows.push row, lineStarts := source.lineStarts.push lineStart }
    let after := bytes + width c
    if c == '\n' then ofChars source after (row + 1) after r
    else ofChars source after row lineStart r

def ofText (text : List Char) : Source := ofChars ⟨#[], #[], #[], #[]⟩ 0 0 0 text

def size (s : Source) : Nat := s.tails.size - 1

def tail (s : Source) (place : Nat) : List Char := s.tails.getD place []

def byte (s : Source) (place : Nat) : Nat := s.bytes.getD place 0

def row (s : Source) (place : Nat) : Nat := s.rows.getD place 0

def column (s : Source) (place : Nat) : Nat := s.byte place - s.lineStarts.getD place 0

def bytesBetween (s : Source) (start stop : Nat) : Nat := s.byte stop - s.byte start

def rowsBetween (s : Source) (start stop : Nat) : Nat := s.row stop - s.row start

end Source

end SiteAudit.Script
