import Reindex.Text.Quoted

/-!
# Log events

What the program says about its work: a level, a message and named values. On the console an event
is one line.
-/

namespace Reindex

inductive LogLevel where
  | trace
  | debug
  | info
  | warn
  | error
  deriving DecidableEq, Repr

namespace LogLevel

def label : LogLevel → String
  | .trace => "TRACE"
  | .debug => "DEBUG"
  | .info => "INFO"
  | .warn => "WARN"
  | .error => "ERROR"

def rank : LogLevel → Nat
  | .trace => 0
  | .debug => 1
  | .info => 2
  | .warn => 3
  | .error => 4

end LogLevel

inductive LogValue where
  | text (s : String)
  | shown (s : String)
  deriving DecidableEq, Repr

namespace LogValue

def raw : LogValue → String
  | .text s => s
  | .shown s => s

def onConsole : LogValue → String
  | .text s => Text.quoted s
  | .shown s => s

def number (n : Nat) : LogValue := .shown (toString n)

end LogValue

structure LogEvent where
  level : LogLevel
  message : String
  fields : List (String × LogValue) := []
  deriving DecidableEq, Repr

/-- A character as it is shown where a terminal must not take it for an order. -/
def harmlessChar (c : Char) : List Char :=
  if ['\x07', '\x08', '\x0c'].contains c then ['\\', 'x', '0'] ++ Text.lowerHex c.toNat
  else if ['\x1b', '\x7f'].contains c then ['\\', 'x'] ++ Text.lowerHex c.toNat
  else if 0x80 ≤ c.toNat && c.toNat ≤ 0x9F then Text.codePoint c
  else [c]

/-- A message in which terminals find no orders. -/
def harmless (message : String) : String := String.ofList (message.toList.flatMap harmlessChar)

/-- The event as a line on the console, without the time in front. -/
def LogEvent.line (e : LogEvent) : String :=
  let label := e.level.label
  "".pushn ' ' (5 - label.length) ++ label ++ " " ++ harmless e.message ++
    String.join (e.fields.map fun f => " " ++ f.1 ++ "=" ++ f.2.onConsole)

end Reindex
