import Recode.Json.Reader

/-!
# Skipping values

The value of a member nobody asks for is skipped: it has to be JSON, at any depth
of nesting, but nothing in it is looked at. Strings need only be well formed, and
a number may have any size.

The skipper keeps the open containers on a stack and knows what may come next.
Each token moves it one step, so however deep the nesting is, the tokens alone
bound the work.

## Main definitions

* `Container`: A list or an object.
* `Due`: What may come next.
* `skip`: Takes a value off the front without looking at it.
-/

namespace Recode

namespace Json

/-- The two kinds of value that hold others. -/
inductive Container where
  | list
  | object
deriving DecidableEq, Repr

/-- What may come next. Directly behind an opening bracket or brace the container
    may also be closed. -/
inductive Due where
  | value (mayClose : Bool)
  | key (mayClose : Bool)
  | colon
  | separator
deriving DecidableEq, Repr

/-- What is wrong with a scalar that is skipped, if anything. -/
def Token.scalarFailure? : Token → Option Failure
  | word _ | number _ => none
  | text s => s.ending.failure?
  | brokenWord atEnd => some (if atEnd then .endInValue else .expectedWord)
  | brokenNumber _ => some .invalidNumber
  | _ => some .expectedValue

/-- The failure when the text ends inside a container. -/
def Container.endFailure : Container → Failure
  | list => .endInList
  | object => .endInObject

/-- The failure when neither a comma nor the end of a container follows. -/
def Container.separatorFailure : Container → Failure
  | list => .expectedCommaOrBracket
  | object => .expectedCommaOrBrace

/-- What is due behind the comma in a container. -/
def Container.afterComma : Container → Due
  | list => .value false
  | object => .key false

/-- The token that closes a container. -/
def Container.closing : Container → Token
  | list => .closeBracket
  | object => .closeBrace

/-- The failure when the text ends, by what was due and the innermost container.
    In a list that has just been opened the end of the list is missing, behind a
    comma a value is. -/
def Due.endFailure (stack : List Container) : Due → Failure
  | value mayClose => if mayClose then .endInList else .endInValue
  | key _ | colon => .endInObject
  | separator => (stack.head?.map Container.endFailure).getD .endInValue

/-- The outcome of one token: the next state, or the end of the value. -/
inductive Skipped where
  | going (due : Due) (stack : List Container)
  | done
deriving DecidableEq, Repr

/-- The value just skipped lies in the given containers. -/
def Skipped.behindValue : List Container → Skipped
  | [] => done
  | stack => going .separator stack

/-- One token, met where `due` may come. -/
def skipToken (due : Due) (stack : List Container) (token : Token) : Except Failure Skipped :=
  match due with
  | .value mayClose =>
    match token with
    | .closeBracket =>
      if mayClose then .ok (.behindValue stack.tail) else .error .expectedValue
    | .openBracket => .ok (.going (.value true) (.list :: stack))
    | .openBrace => .ok (.going (.key true) (.object :: stack))
    | token =>
      match token.scalarFailure? with
      | none => .ok (.behindValue stack)
      | some failure => .error failure
  | .key mayClose =>
    match token with
    | .closeBrace => if mayClose then .ok (.behindValue stack.tail) else .error .keyNotString
    | .text s =>
      match s.check with
      | .ok () => .ok (.going .colon stack)
      | .error failure => .error failure
    | _ => .error .keyNotString
  | .colon =>
    match token with
    | .colon => .ok (.going (.value false) stack)
    | _ => .error .expectedColon
  | .separator =>
    match stack with
    | [] => .ok .done
    | container :: outer =>
      if token = .comma then .ok (.going container.afterComma stack)
      else if token = container.closing then .ok (.behindValue outer)
      else .error container.separatorFailure

/-- Takes a value off the front, given what is due in which containers. -/
def skipFrom (due : Due) (stack : List Container) : Reader Unit
  | [] => .error (due.endFailure stack)
  | token :: rest =>
    match skipToken due stack token with
    | .error failure => .error failure
    | .ok .done => .ok (.one () token rest)
    | .ok (.going due stack) =>
      (skipFrom due stack rest).map fun taken => taken.ofTail (Token.length_rest_le _ rest)

/-- Takes a value off the front without looking at it. -/
def skip : Reader Unit := skipFrom (.value false) []

end Json

end Recode
