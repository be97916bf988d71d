import Greeter.Error.SystemCode
import Greeter.Text.Quoted

/-! # Input and output errors

An error is reported by a code of the operating system, by a kind alone, by a
kind with a message of the program, or by a kind with a fixed message. `message`
is what an operator reads; `debugChars` names the parts, so that errors of
different shape never look alike.
-/

namespace Greeter

/-- An error of an input or output operation. -/
inductive IoError where
  /-- Reported by the operating system. -/
  | system (code : Int)
  /-- A kind and nothing more. -/
  | bare (kind : ErrorKind)
  /-- A kind with a message of the program. -/
  | custom (kind : ErrorKind) (text : String)
  /-- A kind with a fixed message. -/
  | fixed (kind : ErrorKind) (text : String)
  deriving DecidableEq, Repr

namespace IoError

/-- The kind of an error. -/
def kind : IoError → ErrorKind
  | system code => SystemCode.kind code
  | bare kind => kind
  | custom kind _ => kind
  | fixed kind _ => kind

/-- The code of the operating system, if it reported the error. -/
def code? : IoError → Option Int
  | system code => some code
  | _ => none

/-- The text of an error. -/
def messageChars : IoError → List Char
  | system code =>
    (SystemCode.text code).toList ++ " (os error ".toList ++ (toString code).toList ++ [')']
  | bare kind => kind.description.toList
  | custom _ text => text.toList
  | fixed _ text => text.toList

/-- The error with its parts named. -/
def debugChars : IoError → List Char
  | system code =>
    "Os \x7b code: ".toList ++ (toString code).toList ++ ", kind: ".toList ++
      (SystemCode.kind code).name.toList ++ ", message: ".toList ++
      Text.Quoted.encode (SystemCode.text code).toList ++ " \x7d".toList
  | bare kind => "Kind(".toList ++ kind.name.toList ++ [')']
  | custom kind text =>
    "Custom \x7b kind: ".toList ++ kind.name.toList ++ ", error: ".toList ++
      Text.Quoted.encode text.toList ++ " \x7d".toList
  | fixed kind text =>
    "Error \x7b kind: ".toList ++ kind.name.toList ++ ", message: ".toList ++
      Text.Quoted.encode text.toList ++ " \x7d".toList

/-- The text of an error. -/
def message (error : IoError) : String := String.ofList error.messageChars

end IoError

end Greeter
