/-!
# Clocked parts

Everything on the bus clock is a synchronous part: on each tick it reads an input, moves to its
next state and shows an output.  Between ticks a part may be adjusted.  `trace` records every
tick of a history of adjustments and ticks, with the state the tick began in, so that a
statement about timing is a statement about positions in a list.

## Main definitions

* `Clocked σ ι ο`: states `σ` that read an input `ι` and show an output `ο` on each tick
* `Adjustable σ κ`: states `σ` that take an adjustment `κ` between ticks
* `Clocked.after`, `Clocked.outputs`: the state and the outputs of a list of inputs
* `Event κ ι`: an adjustment or a tick
* `trace`, `stateAfter`: the ticks of a history of events, and the state it ends in

## Main results

* `Clocked.outputs_append`, `trace_append`: a history may be cut anywhere
-/

namespace ControlEndpoint

universe u v w z

/-- States that read an input and show an output on each tick. -/
class Clocked (σ : Type u) (ι : outParam (Type v)) (ο : outParam (Type w)) where
  /-- One tick: the next state, and the output shown during the tick. -/
  step : σ → ι → σ × ο

/-- States that can be adjusted between ticks. -/
class Adjustable (σ : Type u) (κ : outParam (Type z)) where
  /-- The state with one adjustment made. -/
  adjust : σ → κ → σ

namespace Clocked

variable {σ : Type u} {ι : Type v} {ο : Type w} [Clocked σ ι ο]

/-- The state after one tick per input. -/
def after (s : σ) (is : List ι) : σ := is.foldl (fun s i => (step s i).1) s

/-- The outputs shown, one per input. -/
def outputs : σ → List ι → List ο
  | _, [] => []
  | s, i :: is => (step s i).2 :: outputs (step s i).1 is

@[simp] theorem after_nil (s : σ) : after s [] = s := rfl

@[simp] theorem after_cons (s : σ) (i : ι) (is : List ι) :
    after s (i :: is) = after (step s i).1 is := rfl

@[simp] theorem outputs_nil (s : σ) : outputs s [] = [] := rfl

@[simp] theorem outputs_cons (s : σ) (i : ι) (is : List ι) :
    outputs s (i :: is) = (step s i).2 :: outputs (step s i).1 is := rfl

theorem after_append (s : σ) (is js : List ι) : after s (is ++ js) = after (after s is) js :=
  List.foldl_append

theorem outputs_append (s : σ) (is js : List ι) :
    outputs s (is ++ js) = outputs s is ++ outputs (after s is) js := by
  induction is generalizing s with
  | nil => rfl
  | cons i is ih => simp [ih]

@[simp] theorem length_outputs (s : σ) (is : List ι) : (outputs s is).length = is.length := by
  induction is generalizing s with
  | nil => rfl
  | cons i is ih => simp [ih]

end Clocked

/-! ## Histories of ticks and adjustments -/

/-- What happens to a part: an adjustment between ticks, or a tick. -/
inductive Event (κ : Type z) (ι : Type v) where
  /-- The part is adjusted. -/
  | adjust (k : κ)
  /-- The clock ticks while the part reads `i`. -/
  | tick (i : ι)
deriving DecidableEq, Repr

/-- One tick of a history. -/
structure Tick (σ : Type u) (ι : Type v) (ο : Type w) where
  /-- The state the tick began in. -/
  before : σ
  /-- What the part read. -/
  input : ι
  /-- What the part showed. -/
  output : ο
deriving DecidableEq, Repr

section History

variable {σ : Type u} {κ : Type z} {ι : Type v} {ο : Type w} [Clocked σ ι ο] [Adjustable σ κ]

/-- The state after one event. -/
def afterEvent (s : σ) : Event κ ι → σ
  | .adjust k => Adjustable.adjust s k
  | .tick i => (Clocked.step s i).1

/-- The state after a history of events. -/
def stateAfter (s : σ) (es : List (Event κ ι)) : σ := es.foldl afterEvent s

/-- The ticks of a history of events, in order. -/
def trace (s : σ) : List (Event κ ι) → List (Tick σ ι ο)
  | [] => []
  | .adjust k :: es => trace (Adjustable.adjust s k) es
  | .tick i :: es =>
    { before := s, input := i, output := (Clocked.step s i).2 } :: trace (Clocked.step s i).1 es

@[simp] theorem stateAfter_nil (s : σ) : stateAfter s ([] : List (Event κ ι)) = s := rfl

@[simp] theorem stateAfter_cons (s : σ) (e : Event κ ι) (es : List (Event κ ι)) :
    stateAfter s (e :: es) = stateAfter (afterEvent s e) es := rfl

theorem stateAfter_append (s : σ) (es fs : List (Event κ ι)) :
    stateAfter s (es ++ fs) = stateAfter (stateAfter s es) fs := List.foldl_append

@[simp] theorem trace_nil (s : σ) : trace s ([] : List (Event κ ι)) = [] := rfl

@[simp] theorem trace_adjust (s : σ) (k : κ) (es : List (Event κ ι)) :
    trace s (.adjust k :: es) = trace (Adjustable.adjust s k) es := rfl

@[simp] theorem trace_tick (s : σ) (i : ι) (es : List (Event κ ι)) :
    trace s (.tick i :: es) =
      { before := s, input := i, output := (Clocked.step s i).2 } ::
        trace (Clocked.step s i).1 es := rfl

/-- A trace is the trace of an initial part followed by the trace from where that part ends. -/
theorem trace_append (s : σ) (es fs : List (Event κ ι)) :
    trace s (es ++ fs) = trace s es ++ trace (stateAfter s es) fs := by
  induction es generalizing s with
  | nil => rfl
  | cons e es ih => cases e <;> simp [ih, afterEvent]

end History

end ControlEndpoint
