import RemoteConsole.Text.Scan
import RemoteConsole.Toml.Basic

/-!
# Strings, names and blanks of TOML

A string stands between double quotes, where a backslash starts an escape, or
between single quotes, where nothing is escaped. Three quotes open a string of
several lines, which may hold one or two of its quotes in a row, also at its end.
A name is a row of letters, digits, dashes and underscores, or a string of one
line; names with points between them lead through tables.
-/

namespace RemoteConsole
namespace Toml.Grammar

open Scan

/-- Blanks within a line. -/
def isBlankInLine (c : Char) : Bool := c == ' ' || c == '\t'

/-- The characters that may stand in a comment. -/
def isPrintable (c : Char) : Bool := c == '\t' || (' ' ≤ c && c != '\x7f')

/-- Blanks within a line, if there are any. -/
def blanks : Scan Unit := do
  let _ ← spanOf isBlankInLine

def newline : Scan Unit := word ['\n'] <|> word ['\r', '\n']

/-- A comment up to the end of the line. -/
def comment : Scan Unit := do
  let _ ← char '#'
  let _ ← spanOf isPrintable

/-- The end of a line or of the text. -/
def lineEnd : Scan Unit := newline <|> atEnd

/-- What may follow a statement on its line. -/
def trailing : Scan Unit := do
  blanks
  let _ ← option comment
  lineEnd

/-- Blanks, comments and line ends inside brackets. -/
def gap : Scan Unit := do
  blanks
  let _ ← many (do
    let _ ← option comment
    newline
    blanks)

/-- The value of a row of hexadecimal digits. -/
def hexValue (ds : List Char) : Nat :=
  ds.foldl (fun n d =>
    n * 16 + (if d.isDigit then d.toNat - 48 else d.toLower.toNat - 87)) 0

def isHexDigit (c : Char) : Bool :=
  c.isDigit || ('a' ≤ c && c ≤ 'f') || ('A' ≤ c && c ≤ 'F')

/-- The character of a number of so many hexadecimal digits. -/
def codePoint (digits : Nat) : Scan (List Char) := do
  let ds ← times (one isHexDigit) digits
  require (hexValue ds).isValidChar
  return [Char.ofNat (hexValue ds)]

/-- What follows the backslash of an escape. -/
def escapeTail : Scan (List Char) := do
  match ← one fun _ => true with
  | 'b' => return ['\x08']
  | 't' => return ['\t']
  | 'n' => return ['\n']
  | 'f' => return ['\x0c']
  | 'r' => return ['\r']
  | '"' => return ['"']
  | '\\' => return ['\\']
  | 'u' => codePoint 4
  | 'U' => codePoint 8
  | _ => failure

def escape : Scan (List Char) := do
  let _ ← char '\\'
  escapeTail

/-- The characters that stand for themselves between quotes. -/
def isPlain (quote : Char) (c : Char) : Bool :=
  isPrintable c && c != quote && (quote == '\'' || c != '\\')

/-- A piece of a string between such quotes. -/
def piece (quote : Char) : Scan (List Char) :=
  spanOf1 (isPlain quote) <|> (if quote == '"' then escape else failure)

/-- A string of one line. -/
def lineString (quote : Char) : Scan (List Char) := do
  let _ ← char quote
  let pieces ← many (piece quote)
  let _ ← char quote
  return pieces.flatten

/-- A backslash at the end of a line, with all blanks and line ends behind it. -/
def lineJoin : Scan (List Char) := do
  let _ ← char '\\'
  blanks
  newline
  let _ ← spanOf isBlankInLine
  let _ ← many (do newline; blanks)
  return []

/-- The end of a line as part of a string. -/
def lineBreak : Scan (List Char) := do
  newline
  return ['\n']

/-- One or two quotes in front of something that is no quote. -/
def fewQuotes (quote : Char) : Scan (List Char) := do
  let qs ← spanOf1 (· == quote)
  require (qs.length ≤ 2)
  return qs

/-- Three quotes that close a string, with at most two more in front of them. -/
def closing (quote : Char) : Scan (List Char) := do
  let extra ← option (word [quote, quote, quote, quote, quote])
  if extra.isSome then return [quote, quote]
  let extra ← option (word [quote, quote, quote, quote])
  if extra.isSome then return [quote]
  word [quote, quote, quote]
  return []

/-- A string of several lines. A line end right behind the opening quotes does not
count. -/
def longString (quote : Char) : Scan (List Char) := do
  word [quote, quote, quote]
  let _ ← option newline
  let join := if quote == '"' then lineJoin else failure
  let pieces ← many (join <|> piece quote <|> lineBreak <|> fewQuotes quote)
  let last ← closing quote
  return pieces.flatten ++ last

def anyString (quote : Char) : Scan String := do
  let cs ← longString quote <|> lineString quote
  return String.ofList cs

/-- Whether a name that is not quoted may hold a character. -/
def isNameChar (c : Char) : Bool := c.isAlphanum || c == '-' || c == '_'

def name : Scan String := do
  let cs ← lineString '"' <|> lineString '\'' <|> spanOf1 isNameChar
  return String.ofList cs

/-- One name with the blanks around it. -/
def spacedName : Scan String := do
  blanks
  let n ← name
  blanks
  return n

/-- How many containers may stand one in another, and how many names in a path. -/
def maxLevels : Nat := 79

/-- Names with points between them. -/
def path : Scan Path := do
  let names ← separated spacedName (char '.')
  require (names.length ≤ maxLevels)
  return { tables := names.dropLast, name := names.getLastD "" }

end Toml.Grammar
end RemoteConsole
