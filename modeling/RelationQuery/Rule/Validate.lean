import RelationQuery.Binary.Read
import RelationQuery.Json.Write
import RelationQuery.Pattern.Read
import RelationQuery.Rule.Basic
import RelationQuery.Uuid

/-!
# Validation

A value is checked against a rule; numbers and truth values may come as text. Every failure has a
message and a stable code.
-/

namespace RelationQuery

structure Violation where
  message : String
  code : String
  deriving DecidableEq, Repr

/-- The text without what counts as no value: null and the empty string. -/
def present? : Option Json → Option Json
  | none => none
  | some .null => none
  | some (.string s) => if s.isEmpty then none else some (.string s)
  | some other => some other

/-! ## Shapes of text -/

def afterDecimals (text : List Char) : List Char := text.dropWhile Text.isDecimal

def cutDecimals? (count : Nat) (text : List Char) : Option (List Char) :=
  if (text.take count).length = count ∧ (text.take count).all Text.isDecimal then
    some (text.drop count)
  else none

def isFraction : List Char → Bool
  | '.' :: digits => !digits.isEmpty && digits.all Text.isDecimal
  | _ => false

/-- An optional hyphen, digits, and an optional fraction. -/
def isNumeralText (text : List Char) : Bool :=
  let unsigned := match text with
    | '-' :: rest => rest
    | _ => text
  let rest := afterDecimals unsigned
  rest.isEmpty || isFraction rest

/-- The text behind a date such as `2024-03-01`. -/
def cutDateText? (text : List Char) : Option (List Char) := do
  let rest ← Text.cutChar? '-' (← cutDecimals? 4 text)
  let rest ← Text.cutChar? '-' (← cutDecimals? 2 rest)
  cutDecimals? 2 rest

def cutTimeText? (text : List Char) : Option (List Char) := do
  let rest ← Text.cutChar? ':' (← cutDecimals? 2 text)
  let rest ← Text.cutChar? ':' (← cutDecimals? 2 rest)
  cutDecimals? 2 rest

def isDateText (text : List Char) : Bool := cutDateText? text == some []

def isTimeText (text : List Char) : Bool := cutTimeText? text == some []

/-- Whether a text ends a moment: `Z`, behind a fraction if there is one. -/
def isMomentEnd (text : List Char) : Bool :=
  text == ['Z'] || (text.getLast? == some 'Z' && isFraction text.dropLast)

def isDateTimeText (text : List Char) : Bool :=
  (do cutTimeText? (← Text.cutChar? 'T' (← cutDateText? text))).any isMomentEnd

def isUuidText (text : List Char) : Bool :=
  (Uuid.cutGroups? Uuid.groupLengths text).any (·.2.isEmpty)

/-! ## Rules -/

namespace Rule

def requiredCode : RuleKind → String
  | .string => "4e17c1e7-aec6-5d7b-8d4d-3ac6e15c8520"
  | .number => "72773c6d-52a5-5e7a-88f9-3ce0a005f0f6"
  | .dateTime => "b74c1bc1-4a57-582a-b42f-e4dd382540c2"
  | .date => "b74c1bc1-4a57-582a-b42f-e4dd382540c2"
  | .time => "29f2b4a6-4e17-5802-8c03-25130806eac7"
  | .boolean => "b4e06719-384e-5130-87f0-1bf12307259a"
  | .id => "784db3b0-eca0-5c61-8db9-db6f3a02353b"

def violation (rule : Rule) (message code : String) : Violation :=
  ⟨rule.name ++ " " ++ message, code⟩

def invalid (rule : Rule) (code : String) : Violation := rule.violation "is invalid" code

def require (holds : Bool) (violation : Violation) : Except Violation Unit :=
  if holds then .ok () else .error violation

def numberText (x : Double) : String := String.ofList (x.text .plain)

def textOf? : Json → Option String
  | .string s => some s
  | .number n => some (String.ofList n.text)
  | .bool b => some (String.ofList (Json.boolText b))
  | _ => none

/-- Whether every character of a text belongs to the class with the given body. -/
def allows (body : String) (text : List Char) : Bool :=
  Pattern.matchesText ("^[".toList ++ body.toList ++ "]+$".toList) text

def validateText (rule : Rule) (text : List Char) : Except Violation Unit := do
  let length := Binary.ofInt .double text.length
  rule.min.forM fun min =>
    require (!length.lt min) (rule.violation
      ("must be at least " ++ numberText min ++ " characters")
      "56d95835-e72c-51ac-ac19-fba0b5c481a3")
  rule.max.forM fun max =>
    require (!max.lt length) (rule.violation
      ("must be at most " ++ numberText max ++ " characters")
      "87e4cedd-a223-56c0-a8a1-bca16807a6d9")
  rule.allowedChars.forM fun body =>
    require (allows body text) (rule.violation "contains invalid characters"
      "4c38141b-5436-59c5-a537-d9201ea50570")
  rule.pattern.forM fun pattern =>
    require (Pattern.matchesText pattern.toList text)
      (rule.invalid "8a0cd2ba-2354-5a23-b4da-5ed0c74ab2fd")

def validateString (rule : Rule) (value : Json) : Except Violation Unit :=
  match textOf? value with
  | some text => rule.validateText text.toList
  | none => .error (rule.violation "must be a string" "b7b5b5e1-5b1f-5b9f-8b5b-5e1b5b1f5b9f")

/-- The number that a value is, by itself or as a numeral. -/
def numberOf (rule : Rule) (value : Json) : Except Violation Double :=
  match value with
  | .number n => .ok n.toDouble
  | .string s =>
      let malformed := rule.invalid "eb718877-e6bb-5754-9ef0-c281f3d78273"
      if isNumeralText s.toList then
        (Binary.read .double s.toList).mapError fun _ => malformed
      else .error malformed
  | _ => .error (rule.invalid "1fb16877-b708-5217-a5a0-044c3564b614")

def decimalPlaces (x : Double) : Nat := ((x.text .plain).dropWhile (· != '.')).length - 1

def validateNumber (rule : Rule) (value : Json) : Except Violation Unit := do
  let number ← rule.numberOf value
  rule.min.forM fun min =>
    require (!number.lt min) (rule.violation ("must be at least " ++ numberText min)
      "f34944e2-3154-5bd4-8897-3c76ac65086e")
  rule.max.forM fun max =>
    require (!max.lt number) (rule.violation ("must be at most " ++ numberText max)
      "124a10e9-3352-5cac-85e6-c4bd1349284f")
  rule.decimals.forM fun decimals =>
    require (decimalPlaces number ≤ decimals) (rule.violation
      ("must have at most " ++ toString decimals ++ " decimals")
      "107bfb13-3b2a-5737-be12-a098b1c4f5e2")

def validateBoolean (rule : Rule) (value : Json) : Except Violation Unit :=
  match value with
  | .bool _ => .ok ()
  | .string s =>
      require (s == "true" || s == "false") (rule.invalid "250d6a46-6860-55f1-b04c-bfb0a37db9cb")
  | _ => .error (rule.invalid "418539e4-0474-5125-b4aa-62d92dfb7230")

/-- Checks a moment, or a date alone if that will do. -/
def validateDate (rule : Rule) (value : Json) (dateAlone : Bool) : Except Violation Unit :=
  let holds := match value with
    | .string s => isDateTimeText s.toList || (dateAlone && isDateText s.toList)
    | _ => false
  require holds (rule.invalid "e3bc3352-9f36-53c5-960f-db53b436246a")

def validateTime (rule : Rule) (value : Json) : Except Violation Unit :=
  match value with
  | .string s => require (isTimeText s.toList) (rule.invalid "07219201-9b2f-5240-9b17-793914c8b76e")
  | _ => .error (rule.invalid "e51ad5073-899e-5ee9-abb6-d92a96e3e31f")

def validateId (rule : Rule) (value : Json) : Except Violation Unit :=
  match value with
  | .string s => require (isUuidText s.toList) (rule.invalid "ee6797a3-9ade-5171-b9ca-325f66dd9db4")
  | _ => .error (rule.invalid "7366c0c5-a861-5b0b-8aeb-0b7e2431016d")

def validatePresent (rule : Rule) (value : Json) : Except Violation Unit :=
  match rule.kind with
  | .string => rule.validateString value
  | .number => rule.validateNumber value
  | .boolean => rule.validateBoolean value
  | .dateTime => rule.validateDate value false
  | .date => rule.validateDate value true
  | .time => rule.validateTime value
  | .id => rule.validateId value

/-- Checks a value. One that is missing, null or an empty string passes unless it is required. -/
def validate (rule : Rule) (value : Option Json) : Except Violation Unit :=
  match present? value with
  | none => require (!rule.required) (rule.violation "is required" (requiredCode rule.kind))
  | some value => rule.validatePresent value

/-- Checks values, each against its rule, up to the first failure. -/
def validateAll (fields : List (Option Json × Rule)) : Except Violation Unit :=
  fields.forM fun (value, rule) => rule.validate value

end Rule

end RelationQuery
