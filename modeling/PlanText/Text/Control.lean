/-!
Text for output that is not a terminal. Control characters go, tabs and the ends of lines and
pages apart, and so do the sequences that start with an escape character.
-/

namespace PlanText.Text

/-- What part of a control sequence comes next, if one is under way. -/
inductive ControlState
  | plain
  | escape
  /-- Characters up to a final one, which is a digit, a letter or a mark. -/
  | designation
  /-- Parameters up to a final character, which is no digit. -/
  | parameters
  /-- The start of a device control, whose parameters or text follow. -/
  | device
  | deviceParameters
  | deviceDesignation
  /-- A text up to a character that is written with the byte of the string terminator. -/
  | string
  /-- A text up to a bell. -/
  | command
deriving DecidableEq, Repr

namespace ControlState

/-- Whether one of the bytes of a character is the string terminator. -/
def isTerminator (c : Char) : Bool := (String.utf8EncodeChar c).contains 0x9C

/-- Cancel and substitute end every sequence, and an escape character starts a new one.
Control characters and characters beyond ASCII are passed over, a terminator apart. -/
def next (state : ControlState) (c : Char) : ControlState :=
  if c = '\x1b' then escape
  else if c = '\x18' ∨ c = '\x1a' then plain
  else
    match state with
    | plain => plain
    | escape =>
      if ' ' ≤ c ∧ c ≤ '/' then designation
      else if c = '[' then parameters
      else if c = ']' then command
      else if c = 'P' then device
      else if c = 'X' ∨ c = '^' ∨ c = '_' then string
      else if '0' ≤ c ∧ c ≤ '~' then plain
      else escape
    | designation => if '0' ≤ c ∧ c ≤ '~' then plain else designation
    | parameters => if '@' ≤ c ∧ c ≤ '~' then plain else parameters
    | device =>
      if ' ' ≤ c ∧ c ≤ '/' then deviceDesignation
      else if '0' ≤ c ∧ c ≤ '?' then deviceParameters
      else if '@' ≤ c ∧ c ≤ '~' then string
      else device
    | deviceParameters =>
      if ' ' ≤ c ∧ c ≤ '/' then deviceDesignation
      else if '<' ≤ c ∧ c ≤ '~' then string
      else deviceParameters
    | deviceDesignation => if '0' ≤ c ∧ c ≤ '~' then string else deviceDesignation
    | string => if isTerminator c then plain else string
    | command => if c = '\x07' then plain else command

def isFormatting (c : Char) : Bool := c = '\t' || c = '\n' || c = '\x0c' || c = '\r'

/-- Tabs and ends of lines count even inside a sequence, unless it is one that holds text. -/
def shows (state : ControlState) (c : Char) : Bool :=
  match state with
  | plain => isFormatting c || (' ' ≤ c && c ≠ '\x7f')
  | escape => isFormatting c
  | designation => isFormatting c
  | parameters => isFormatting c
  | _ => false

end ControlState

/-- Once a character shows, all that follow do up to the next control character. A sequence
that a tab or the end of a line cut short goes on there, unless a character beyond ASCII has
come up in between. -/
def withoutControlsFrom (state : ControlState) (showing : Bool) : List Char → List Char
  | [] => []
  | c :: rest =>
    if showing && ControlState.plain.shows c then
      c :: withoutControlsFrom (if c ≤ '\x7f' then state else .plain) true rest
    else if state.shows c then c :: withoutControlsFrom (state.next c) true rest
    else withoutControlsFrom (state.next c) false rest

def withoutControls (text : String) : String :=
  String.ofList (withoutControlsFrom .plain false text.toList)

end PlanText.Text
