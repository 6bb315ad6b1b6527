import Provision.Template.Layout

namespace Provision.Template

/-!
# The functions of the template language

Functions are total on lists of values: a call either has a value or one of the causes of failure
below.
-/

inductive Function where
  | eq | ne | lt | le | gt | ge
  | len | and | or | not
  | urlQuery | print | printLine | printFormat | index | call
  deriving DecidableEq, Repr, Inhabited

inductive CallError where
  | tooFew (name : String) (count : Nat)
  | notOne (name : String)
  | incomparable (left right : String)
  | noLength (value : String)
  | noEntry (key container : String)
  | notAFunction
  | notAText
  | notAFormat
  | layout (error : LayoutError)
  deriving DecidableEq, Repr, Inhabited

def CallError.message : CallError → String
  | tooFew name count => name ++ " requires at least " ++ toString count ++ " argument(s)"
  | notOne name => name ++ " requires exactly 1 argument(s)"
  | incomparable left right => "unable to compare " ++ left ++ " and " ++ right
  | noLength value => "unable to call len on " ++ value
  | noEntry key container => "unable to get " ++ key ++ " in " ++ container
  | notAFunction => "call requires the first argument to be a function"
  | notAText => "Arguments need to be of type String"
  | notAFormat => "printf requires a format string"
  | layout error => error.message

namespace Function

def name : Function → String
  | eq => "eq"
  | ne => "ne"
  | lt => "lt"
  | le => "le"
  | gt => "gt"
  | ge => "ge"
  | len => "len"
  | and => "and"
  | or => "or"
  | not => "not"
  | urlQuery => "urlquery"
  | print => "print"
  | printLine => "println"
  | printFormat => "printf"
  | index => "index"
  | call => "call"

def all : List Function :=
  [eq, ne, lt, le, gt, ge, len, and, or, not, urlQuery, print, printLine, printFormat, index, call]

def ofName? (s : String) : Option Function := all.find? fun f => f.name = s

theorem ofName?_name (f : Function) : ofName? f.name = some f := by
  cases f <;> rfl

def isQueryByte (b : UInt8) : Bool :=
  0x21 ≤ b && b ≤ 0x7E && !("\"<>#\x60?\x7b\x7d".toUTF8.toList.contains b)

def percent (b : UInt8) : List Char :=
  ['%'] ++ upperHex (b.toNat / 16) ++ upperHex (b.toNat % 16)

def queryText (s : String) : String :=
  String.ofList (s.toUTF8.toList.flatMap fun b =>
    if isQueryByte b then [Char.ofNat b.toNat] else percent b)

/-- Printed values one after the other, with a space between two that are not texts. -/
def printed (before : Option Value) : List Value → String
  | [] => ""
  | v :: rest =>
    let isText : Value → Bool := fun
      | .text _ => true
      | _ => false
    let space := match before with
      | some u => !isText u && !isText v
      | none => false
    (if space then " " else "") ++ v.print ++ printed (some v) rest

/-- Looks a key up.  Texts and numbers are keys of a map; it has no entry for any other key. -/
def entry (container key : Value) : Except CallError Value :=
  match container, key with
  | .map s, .text k => .ok (((s.get? k).map .text).getD .absent)
  | .map s, .number n => .ok (((s.get? n.text).map .text).getD .absent)
  | .map _, _ => .ok .absent
  | _, _ => .error (.noEntry key.print container.print)

def compared (f : Function) (holds : Ordering → Bool) : List Value → Except CallError Value
  | [a, b] =>
    match a.order? b with
    | some o => .ok (.bool (holds o))
    | none => .error (.incomparable a.print b.print)
  | _ => .error (.tooFew f.name 2)

/-- The argument that decides a conjunction or a disjunction: the first whose truth is `stop`, or
else the last. -/
def deciding (stop : Bool) (first : Value) (rest : List Value) : Value :=
  match rest with
  | [] => first
  | v :: rest => if first.isTrue = stop then first else deciding stop v rest

def apply (f : Function) (args : List Value) : Except CallError Value :=
  match f, args with
  | eq, a :: b :: rest => .ok (.bool ((b :: rest).all (· = a)))
  | eq, _ => .error (.tooFew f.name 2)
  | ne, [a, b] => .ok (.bool (a ≠ b))
  | ne, _ => .error (.tooFew f.name 2)
  | lt, _ => compared f (· = .lt) args
  | le, _ => compared f (· ≠ .gt) args
  | gt, _ => compared f (· = .gt) args
  | ge, _ => compared f (· ≠ .lt) args
  | len, [.text s] => .ok (.number (.natural s.utf8ByteSize))
  | len, [v] => .error (.noLength v.print)
  | len, _ => .error (.notOne f.name)
  | and, v :: rest => .ok (deciding false v rest)
  | or, v :: rest => .ok (deciding true v rest)
  | not, [v] => .ok (.bool !v.isTrue)
  | not, _ => .error (.notOne f.name)
  | urlQuery, [.text s] => .ok (.text (queryText s))
  | urlQuery, [_] => .error .notAText
  | urlQuery, _ => .error (.notOne f.name)
  | print, _ => .ok (.text (printed none args))
  | printLine, _ => .ok (.text (" ".intercalate (args.map Value.print) ++ "\n"))
  | printFormat, .text s :: rest =>
    match lay s rest with
    | .ok t => .ok (.text t)
    | .error e => .error (.layout e)
  | printFormat, _ :: _ => .error .notAFormat
  | index, container :: key :: keys => (key :: keys).foldlM entry container
  | index, _ => .error (.tooFew f.name 2)
  | call, _ :: _ => .error .notAFunction
  | _, [] => .error (.tooFew f.name 1)

end Function

end Provision.Template
