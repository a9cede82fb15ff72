import RefLint.Regex.Expression

/-!
# Searching with attempts

An expression that is not regular is searched for by attempts: where two ways lead on, one
is taken and the other is kept for later. When an attempt fails, the last way that was kept
is taken up. The number of failures is limited. Parts of a fixed width that are regular are
matched at once.
-/

namespace RefLint.Regex

set_option autoImplicit false

/-- What is still to be done before a match is complete. -/
inductive Task where
  /-- Match an expression; `last` says that nothing behind it depends on where it ends. -/
  | run (expression : Expression) (last : Bool)
  | atOnce (regex : Regex)
  /-- A repetition after `count` rounds, the last of which began at `start`. -/
  | again (body : Expression) (least : Nat) (most : Option Nat) (greedy : Bool) (count : Nat)
      (start : Option Nat)
  | closeGroup (number : Nat)
  /-- Go on at a place that was left before. -/
  | goTo (place : Nat)
  /-- Give up the ways that were kept since there were `kept` of them. -/
  | settle (kept : Nat)
  /-- Give them up and fail. -/
  | refuse (kept : Nat)

/-- Where a group began last, and where it ended last. -/
structure Capture where
  start : Nat
  stop : Option Nat := none

abbrev Captures := List (Nat × Capture)

namespace Captures

def get? (captures : Captures) (number : Nat) : Option Capture :=
  (captures.find? fun entry => entry.1 == number).map (·.2)

def set (captures : Captures) (number : Nat) (capture : Capture) : Captures :=
  (number, capture) :: captures.filter fun entry => entry.1 != number

end Captures

/-- A way on: what is to be done, from which place, and what the groups have matched. -/
structure Way where
  tasks : List Task
  place : Nat
  captures : Captures := []

structure State where
  way : Way
  /-- The ways that were kept for later, last first. -/
  kept : List Way := []
  keptCount : Nat := 0

namespace State

def keep (state : State) (way : Way) : State :=
  { state with kept := way :: state.kept, keptCount := state.keptCount + 1 }

def goOn (state : State) (tasks : List Task) : State :=
  { state with way := { state.way with tasks := tasks } }

def moveTo (state : State) (place : Nat) (tasks : List Task) : State :=
  { state with way := { state.way with place := place, tasks := tasks } }

/-- Give up the ways that were kept last until only `count` are left. -/
def cutTo (state : State) (count : Nat) : State :=
  { state with
    kept := state.kept.drop (state.keptCount - count)
    keptCount := min state.keptCount count }

/-- Take the first list of tasks and keep the second one, or the other way round. -/
def choose (state : State) (preferFirst : Bool) (first second : List Task) : State :=
  let (now, later) := if preferFirst then (first, second) else (second, first)
  (state.keep { state.way with tasks := later }).goOn now

end State

def isWordAt (text : Array Char) (place : Nat) : Bool :=
  text[place]?.any Unicode.Category.wordChars.holds

def isWordBefore (text : Array Char) (place : Nat) : Bool :=
  place != 0 && isWordAt text (place - 1)

def holdsAt (text : Array Char) (place : Nat) : Place → Bool
  | .textStart => place == 0
  | .textEnd => place == text.size
  | .lineStart => startsLine text place
  | .lineEnd => endsLine text place
  | .wordEdge => isWordBefore text place != isWordAt text place
  | .noWordEdge => isWordBefore text place == isWordAt text place
  | .wordStart => !isWordBefore text place && isWordAt text place
  | .wordEnd => isWordBefore text place && !isWordAt text place

structure Subject where
  text : Array Char
  /-- The groups that are referred to. -/
  referenced : List Nat

def Subject.fixed? (subject : Subject) (part : Expression) : Option Regex :=
  if part.width?.isSome then part.regular? subject.referenced else none

def allAtOnce : List Regex → List Task
  | [] => []
  | first :: rest => [.atOnce (rest.foldl Regex.sequence first)]

/-- The tasks for a sequence: what is regular and of fixed width at its front and at its end is
matched at once. Where nothing depends on the end, any width will do there. -/
def Subject.sequenceTasks (subject : Subject) (parts : List Expression) (last : Bool) :
    List Task :=
  let front := parts.map subject.fixed? |>.takeWhile Option.isSome
  let others := parts.drop front.length
  let closing := (others.reverse.map fun part =>
    if last then part.regular? subject.referenced else subject.fixed? part).takeWhile Option.isSome
  let middle := others.take (others.length - closing.length)
  allAtOnce (front.filterMap id) ++ middle.map (Task.run · false)
    ++ allAtOnce (closing.reverse.filterMap id)

/-- Match an expression that is not matched at once. `none` is a failure. -/
def Subject.run (subject : Subject) (state : State) (last : Bool) (rest : List Task) :
    Expression → Option State
  | .nothing => some (state.goOn rest)
  | .oneOf set =>
      if subject.text[state.way.place]?.any set.contains then
        some (state.moveTo (state.way.place + 1) rest)
      else none
  | .at place =>
      if holdsAt subject.text state.way.place place then some (state.goOn rest) else none
  | .sequence first second =>
      some (state.goOn (subject.sequenceTasks (first :: second.parts) last ++ rest))
  | .either first second =>
      some (state.choose true (.run first last :: rest) (.run second last :: rest))
  | .repeated body 0 (some 1) greedy =>
      some (state.choose greedy (.run body last :: rest) rest)
  | .repeated body least most greedy =>
      some (state.goOn (.again body least most greedy 0 none :: rest))
  | .group number body =>
      let stop := ((state.way.captures.get? number).map (·.stop)).getD none
      let opened := state.way.captures.set number ⟨state.way.place, stop⟩
      some { state with
        way := { state.way with
          captures := opened
          tasks := .run body last :: .closeGroup number :: rest } }
  | .look direction expected body =>
      let place := state.way.place
      let width :=
        match direction with
        | .ahead => some 0
        | .behind => body.width?
      let start := width.bind fun width => if width ≤ place then some (place - width) else none
      match start, expected with
      | some start, true => some (state.moveTo start (.run body true :: .goTo place :: rest))
      | none, true => none
      | some start, false =>
          let kept := state.keptCount
          let waiting := state.keep { state.way with tasks := rest }
          some (waiting.moveTo start [.run body true, .refuse kept])
      | none, false =>
          -- The attempt to step back fails, and the search goes on behind the condition.
          some ((state.keep { state.way with tasks := rest }).goOn [.refuse (state.keptCount + 1)])
  | .atomic body => some (state.goOn (.run body false :: .settle state.keptCount :: rest))
  | .sameAs number =>
      match state.way.captures.get? number with
      | some ⟨start, some stop⟩ =>
          let length := stop - start
          let place := state.way.place
          if place + length ≤ subject.text.size
              && (List.range length).all fun i =>
                subject.text[start + i]? == subject.text[place + i]? then
            some (state.moveTo (place + length) rest)
          else none
      | _ => none
  | .hasMatched number =>
      match state.way.captures.get? number with
      | some ⟨_, some _⟩ => some (state.goOn rest)
      | _ => none
  | .conditional test holds fails =>
      let kept := state.keptCount
      some (state.choose true (.run test false :: .settle kept :: .run holds last :: rest)
        (.run fails last :: rest))

/-- Go on with a repetition: with another round, with what follows it, or with one now and the
other later. A round that has not moved is the last one. -/
def State.repeat (state : State) (body : Expression) (least : Nat) (most : Option Nat)
    (greedy : Bool) (count : Nat) (start : Option Nat) (rest : List Task) : State :=
  let round : List Task := .run body false
    :: .again body least most greedy (count + 1) (some state.way.place) :: rest
  if most == some count then state.goOn rest
  else if least < count && start == some state.way.place then state.goOn rest
  else if count < least then state.goOn round
  else state.choose greedy round rest

def Subject.perform (subject : Subject) (state : State) (rest : List Task) : Task → Option State
  | .run expression last =>
      let whole := if last then expression.regular? subject.referenced else none
      match whole with
      | some regex => some (state.goOn (.atOnce regex :: rest))
      | none => subject.run state last rest expression
  | .atOnce regex =>
      match regex.ends subject.text [state.way.place] with
      | place :: _ => some (state.moveTo place rest)
      | [] => none
  | .again body least most greedy count start =>
      some (state.repeat body least most greedy count start rest)
  | .closeGroup number =>
      let start := ((state.way.captures.get? number).map (·.start)).getD state.way.place
      let closed := state.way.captures.set number ⟨start, some state.way.place⟩
      some { state with way := { state.way with captures := closed, tasks := rest } }
  | .goTo place => some (state.moveTo place rest)
  | .settle kept => some ((state.cutTo kept).goOn rest)
  | .refuse _ => none

inductive Outcome where
  | found
  | absent
  /-- The search was given up after too many failures. -/
  | exhausted
  deriving DecidableEq

/-- The search is given up when there are more failures than this. -/
def failureLimit : Nat := 1000000

def State.retreat (state : State) (failures : Nat) : Except Outcome (State × Nat) :=
  match state.kept with
  | [] => .error .absent
  | way :: kept =>
      if failureLimit ≤ failures then .error .exhausted
      else .ok (⟨way, kept, state.keptCount - 1⟩, failures + 1)

/-- Search on; the fuel is spent by each task. -/
def Subject.searchFrom (subject : Subject) : Nat → Nat → State → Outcome
  | 0, _, _ => .exhausted
  | fuel + 1, failures, state =>
      match state.way.tasks with
      | [] => .found
      | task :: rest =>
          match subject.perform state rest task with
          | some next => subject.searchFrom fuel failures next
          | none =>
              let left :=
                match task with
                | .refuse kept => state.cutTo kept
                | _ => state
              match left.retreat failures with
              | .ok (next, failures) => subject.searchFrom fuel failures next
              | .error outcome => outcome

/-- Far more tasks than are done between as many failures as are allowed. -/
def taskLimit : Nat := failureLimit * 1000000

def search (expression : Expression) (referenced : List Nat) (text : String) : Outcome :=
  let subject : Subject := ⟨text.toList.toArray, referenced⟩
  let anywhere := Expression.repeated (.oneOf .all) 0 none false
  subject.searchFrom taskLimit 0
    { way := ⟨[.run anywhere false, .run (.group 0 expression) false], 0, []⟩ }

end RefLint.Regex
