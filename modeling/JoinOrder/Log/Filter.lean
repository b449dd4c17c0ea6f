/-
# Log Filters

Which events are written.  A filter is a list of directives, each of which limits some events to a
level or switches them off: those of a target, or of every target, and of these perhaps only the
ones that have a certain field.  Of the directives that concern an event the most specific one
decides, and of several for the same events the last.  An event that no directive concerns is not
written.

A filter is written as directives between commas.  A directive is a level, a target, or a target
with a selector in brackets; behind a target or selector an equals sign and a level may follow,
without which all levels pass.

Main statement: what the filter for a level writes (`allows_upTo`).
-/
import JoinOrder.Content
import JoinOrder.Log.Event
import JoinOrder.Log.Pattern
import JoinOrder.Text.Alphanumeric
import JoinOrder.Text.Blank

namespace JoinOrder

/-! ## Directives -/

/-- What a directive is about within its target. -/
inductive Selector where
  /-- Every event. -/
  | events
  /-- The events that have a field of this name. -/
  | eventsWith (field : String)
  /-- Spans of work and what is said within them; no span is ever opened here. -/
  | spans
  deriving DecidableEq, Repr

/-- A limit on some events. -/
structure Directive where
  /-- What the targets of these events start with; nothing for every target. -/
  target : String
  /-- Which of their events. -/
  selector : Selector
  /-- The level that events need; none if they are switched off. -/
  limit : Option Level
  deriving DecidableEq, Repr

namespace Selector

/-- Whether a selector picks an event. -/
def picks (event : Event) : Selector → Bool
  | events => true
  | eventsWith field => event.fieldNames.contains field
  | spans => false

/-- The field that a selector asks for. -/
def fieldNames : Selector → List String
  | eventsWith field => [field]
  | _ => []

end Selector

namespace Directive

/-- Whether a directive is about an event. -/
def concerns (directive : Directive) (event : Event) : Bool :=
  directive.target.toList.isPrefixOf event.target.toList && directive.selector.picks event

/-- Compares how specific two directives are that concern one event: a longer target is more
specific, then a field that is asked for, and of two fields the later name. -/
def compareSpecificity (a b : Directive) : Ordering :=
  (compare a.target.length b.target.length).then <|
    (compare a.selector.fieldNames.length b.selector.fieldNames.length).then
      (compare a.selector.fieldNames b.selector.fieldNames)

end Directive

/-! ## Filters -/

/-- A list of directives. -/
abbrev Filter := List Directive

namespace Filter

/-- The more specific of two directives, where the later one is preferred. -/
def moreSpecific : Option Directive → Directive → Option Directive
  | none, later => some later
  | some earlier, later =>
    if (earlier.compareSpecificity later).isLE then some later else some earlier

/-- The directive that decides about an event. -/
def decisive? (filter : Filter) (event : Event) : Option Directive :=
  (List.filter (·.concerns event) filter).foldl moreSpecific none

/-- Whether an event is written. -/
def allows (filter : Filter) (event : Event) : Bool :=
  match filter.decisive? event with
  | none => false
  | some directive =>
    match directive.limit with
    | none => false
    | some limit => limit.admits event.level

/-- The filter that writes the library's events from a level up, and warnings of everything else. -/
def upTo (level : Level) : Filter :=
  [⟨Event.library, .events, some level⟩, ⟨"", .events, some .warn⟩]

/-- **The filter for a level** lets the events of the library pass that are important enough. -/
theorem allows_upTo (limit : Level) (event : Event) :
    allows (upTo limit) event = limit.admits event.level := by
  have prefixed : Event.library.toList <+: event.target.toList := by
    cases event <;> exact String.toList_append ▸ List.prefix_append _ _
  have library : Directive.concerns ⟨Event.library, .events, some limit⟩ event = true := by
    rw [Directive.concerns, List.isPrefixOf_iff_prefix.2 prefixed]
    rfl
  have others : Directive.concerns ⟨"", .events, some .warn⟩ event = true := by
    simp [Directive.concerns, Selector.picks]
  -- The target of the library is more specific than no target.
  have longer : compare Event.library.length 0 = .gt := by decide
  have decisive : decisive? (upTo limit) event =
      some ⟨Event.library, .events, some limit⟩ := by
    simp [decisive?, upTo, library, others, moreSpecific, Directive.compareSpecificity, longer]
  rw [allows, decisive]

/-- The filter that writes errors alone. -/
def errorsOnly : Filter := [⟨"", .events, some .error⟩]

end Filter

/-! ## Reading directives -/

/-- Why a filter cannot be read. -/
inductive FilterFault where
  /-- It does not have the form of a filter. -/
  | malformed
  /-- A part of it starts or ends inside a character. -/
  | brokenCharacter
  deriving DecidableEq, Repr

namespace Directive

/-- The limits by their numbers. -/
def numberedLimits : List (Option Level) :=
  [none, some .error, some .warn, some .info, some .debug, some .trace]

/-- The limit with a name. -/
def namedLimit? (text : String) : Option (Option Level) :=
  if String.ofList (text.toList.map Char.toLower) = "off" then some none
  else (Level.ofName? text).map some

/-- The limit that a text denotes, by its number or its name; the outer option is for texts that
denote none. -/
def limitOfText? (text : String) : Option (Option Level) :=
  ((Word.ofText? text).bind fun number => numberedLimits[number]?).or (namedLimit? text)

/-- Whether a character can be the first one of a level or target. -/
def startsName (c : Char) : Bool :=
  c = '-' || c = ':' || c = '_' || Text.isAlphanumeric c

/-- Cuts out a part by the number of bytes in front of it and behind it.  Places are counted from
the first character that is not blank, but the cut is made in the text as it stands, so that blanks
in front move every part. -/
def cut (text : String) (seen part : List Char) : Except FilterFault String :=
  match Text.slice? text (Text.byteCount seen) (Text.byteCount (seen ++ part)) with
  | some slice => .ok slice
  | none => .error .brokenCharacter

/-- Cuts out the last part, blanks at the end included. -/
def cutRest (text : String) (seen : List Char) : Except FilterFault String :=
  match Text.slice? text (Text.byteCount seen) text.utf8ByteSize with
  | some slice => .ok slice
  | none => .error .brokenCharacter

/-- The limit at the end of a directive, of which the characters up to the equals sign have been
seen; every level passes when none is written. -/
def readLimit (text : String) (seen : List Char) : Except FilterFault (Option Level) := do
  let level ← cutRest text seen
  if level = "" then return some .trace
  else
    match limitOfText? level with
    | some limit => return limit
    | none => throw .malformed

/-- What follows a selector: nothing, or a limit. -/
def readEnd (text : String) (seen : List Char) : List Char → Except FilterFault (Option Level)
  | [] => .ok (some .trace)
  | '=' :: _ => readLimit text (seen ++ ['='])
  | _ => .error .malformed

/-- The selector for a span with a name, or with none, and a condition on a field.  Events can only
be picked by the field's name. -/
def fieldSelector (span field : String) : Except FilterFault Selector :=
  let cs := field.toList
  match cs.dropWhile (· ≠ '=') with
  | [] => .ok (if span = "" then .eventsWith field else .spans)
  | _ :: condition =>
    if Pattern.isCondition (condition.takeWhile (· ≠ '=')) then .ok .spans else .error .malformed

/-- The selector and the limit behind an opening bracket. -/
def readSelector (text : String) (seen cs : List Char) :
    Except FilterFault (Selector × Option Level) := do
  let name := cs.takeWhile fun c => c ≠ ']' && c ≠ '\x7b'
  match cs.drop name.length with
  | ']' :: rest =>
    let _ ← cut text seen name
    let limit ← readEnd text (seen ++ name ++ [']']) rest
    return (.spans, limit)
  | '\x7b' :: inner =>
    let span ← cut text seen name
    let seen := seen ++ name ++ ['\x7b']
    let condition := inner.takeWhile (· ≠ '\x7d')
    match inner.drop condition.length with
    | [] => throw .malformed
    | _ :: rest =>
      let field ← cut text seen condition
      if field = "" then throw .malformed
      let selector ← fieldSelector span field
      match rest with
      | ']' :: rest =>
        let limit ← readEnd text (seen ++ condition ++ ['\x7d', ']']) rest
        return (selector, limit)
      | _ => throw .malformed
  | _ => throw .malformed

/-- The directive that a text without brackets and equals sign denotes: a level, or else a target of
which all levels pass. -/
def ofName (text : String) : Directive :=
  match limitOfText? text with
  | some limit => ⟨"", .events, limit⟩
  | none => ⟨text, .events, some .trace⟩

/-- The directive that a text denotes. -/
def ofText (text : String) : Except FilterFault Directive := do
  let cs := Text.trimChars text.toList
  let name := cs.takeWhile fun c => c ≠ '=' && c ≠ '['
  if !name.head?.all startsName then throw .malformed
  match cs.drop name.length with
  | '[' :: rest =>
    let target ← cut text [] name
    let (selector, limit) ← readSelector text (name ++ ['[']) rest
    return ⟨target, selector, limit⟩
  | rest =>
    if name = [] then throw .malformed
    match rest with
    | [] => return ofName text
    | _ =>
      let target ← cut text [] name
      let limit ← readLimit text (name ++ ['='])
      return ⟨target, .events, limit⟩

end Directive

/-! ## Reading filters -/

namespace Filter

/-- The filter that a text denotes; a text without directives writes errors alone. -/
def ofText (text : String) : Except FilterFault Filter := do
  let directives ← ((text.splitOn ",").filter (· ≠ "")).mapM Directive.ofText
  return if directives.isEmpty then errorsOnly else directives

/-- The filter of a run: the one that the environment gives, if there is one in the right form, or
else the one for the level that was asked for, where an unknown level stands for warnings. -/
def choose (environment : Option String) (levelName : String) : Except FilterFault Filter :=
  let asked := upTo ((Level.ofName? levelName).getD .warn)
  match environment.map ofText with
  | none | some (.error .malformed) => .ok asked
  | some result => result

end Filter

end JoinOrder
