import AgentManifest.Proofs.Delivery.Calls
import AgentManifest.Proofs.Delivery.FileNames

/-! Calls of one sink that prints, side by side. A call waits until the output is free, hands over
its text and the newline that the text may lack, waits until all of that has come out, and gives the
output back. Bytes are handed over and come out in pieces of any size, and other calls can have
their turn between any two of them. -/

namespace AgentManifest

namespace Parcel

def bytes (text : String) : List UInt8 := text.toUTF8.data.toList

/-- What is written behind the text. -/
def ending (p : Parcel) : List UInt8 := if p.text.toList.getLast? = some '\n' then [] else [10]

theorem bytes_block (p : Parcel) : bytes p.block = bytes p.text ++ p.ending := by
  rw [block, ending]
  split
  · simp
  · simp [bytes, String.toUTF8]
    rfl

end Parcel

/-- What a call has yet to hand over. -/
inductive Unwritten where
  | text (left : List UInt8)
  | newline (left : List UInt8)
  | nothing
  deriving DecidableEq

/-- Where a call of a sink that prints stands. -/
inductive PrintStage where
  | called
  /-- It waits for the output. -/
  | waiting (parcel : Parcel)
  /-- It has the output to itself; what it has handed over may not have come out yet. -/
  | printing (parcel : Parcel) (unwritten : Unwritten) (handed : List UInt8)
  | delivered (parcel : Parcel) (receipt : Receipt)
  /-- The agent has no text in this form. -/
  | refused (chain : ErrorChain)
  deriving DecidableEq

/-- What can be done for a call in its turn. -/
inductive PrintMove where
  /-- The call goes on; while it writes, at most so many bytes are taken from it. -/
  | goOn (count : Nat)
  /-- So many of the bytes that it has handed over come out. -/
  | comeOut (count : Nat)
  deriving DecidableEq

/-- What calls of a sink that prints share. -/
structure OutputSink where
  form : OutputForm
  mode : CreateMode

structure PrintCall where
  agent : Agent
  stage : PrintStage

/-- Calls of one sink, with the call that has the output and what has come out. -/
structure PrintRun where
  calls : List PrintCall
  holder : Option Nat
  output : List UInt8

namespace PrintStage

def parcel? : PrintStage → Option Parcel
  | .waiting p | .printing p _ _ | .delivered p _ => some p
  | .called | .refused _ => none

/-- What a call that is over has answered. -/
def emission? : PrintStage → Option Emission
  | .delivered _ receipt => some (.delivered receipt)
  | .refused chain => some (.failed chain)
  | .called | .waiting _ | .printing .. => none

end PrintStage

namespace OutputSink

variable {m : Type → Type} [Monad m] [MonadWorkspace m]

def sink (s : OutputSink) : Sink (StateT Claims m) := .writing s.form s.mode .output

/-- What a turn makes of the call with the given number, of who has the output and of the output. -/
def goOn (s : OutputSink) (i : Nat) (a : Agent) (holder : Option Nat) (output : List UInt8) :
    PrintStage → PrintMove → PrintStage × Option Nat × List UInt8
  | .called, .goOn _ =>
    match s.form.parcel s.mode a with
    | .error e => (.refused e.chain, holder, output)
    | .ok p => (.waiting p, holder, output)
  | .waiting p, .goOn _ =>
    match holder with
    | none => (.printing p (.text (Parcel.bytes p.text)) [], some i, output)
    | some _ => (.waiting p, holder, output)
  | .printing p (.text []) handed, .goOn _ =>
    match p.ending with
    | [] => (.printing p .nothing handed, holder, output)
    | newline => (.printing p (.newline newline) handed, holder, output)
  | .printing p (.text left) handed, .goOn n =>
    (.printing p (.text (left.drop n)) (handed ++ left.take n), holder, output)
  | .printing p (.newline []) handed, .goOn _ => (.printing p .nothing handed, holder, output)
  | .printing p (.newline left) handed, .goOn n =>
    (.printing p (.newline (left.drop n)) (handed ++ left.take n), holder, output)
  | .printing p .nothing [], .goOn _ => (.delivered p ⟨p.agent, "stdout"⟩, none, output)
  | .printing p unwritten handed, .comeOut n =>
    (.printing p unwritten (handed.drop n), holder, output ++ handed.take n)
  | stage, _ => (stage, holder, output)

def start (agents : List Agent) : PrintRun := ⟨agents.map (⟨·, .called⟩), none, []⟩

/-- The run after a turn of one of its calls; there may be none of this number. -/
def turn (s : OutputSink) (r : PrintRun) (i : Nat) (move : PrintMove) : PrintRun :=
  match r.calls[i]? with
  | none => r
  | some call =>
    let (stage, holder, output) := s.goOn i call.agent r.holder r.output call.stage move
    ⟨r.calls.set i ⟨call.agent, stage⟩, holder, output⟩

/-- The run after more turns of its calls. -/
def onward (s : OutputSink) (r : PrintRun) (turns : List (Nat × PrintMove)) : PrintRun :=
  turns.foldl (fun r turn => s.turn r turn.1 turn.2) r

/-- The run in which calls with the given agents have the given turns. -/
def run (s : OutputSink) (agents : List Agent) (turns : List (Nat × PrintMove)) : PrintRun :=
  s.onward (start agents) turns

end OutputSink

/-- The bytes of its block that a call has yet to hand over. -/
def Parcel.rest (p : Parcel) : Unwritten → List UInt8
  | .text left => left ++ p.ending
  | .newline left => left
  | .nothing => []

namespace OutputSink

variable {s : OutputSink} {a : Agent} {p : Parcel} {i j : Nat} {holder holder' : Option Nat}
  {output output' : List UInt8} {stage stage' : PrintStage} {move : PrintMove}

/-- What one turn can do to a call, to who has the output, and to the output. -/
inductive Goes (s : OutputSink) (i : Nat) (a : Agent) (holder : Option Nat)
    (output : List UInt8) : PrintStage → PrintStage → Option Nat → List UInt8 → Prop
  | unrendered {e : RenderError} (failed : s.form.parcel s.mode a = .error e) :
      Goes s i a holder output .called (.refused e.chain) holder output
  | renders {p : Parcel} (rendered : s.form.parcel s.mode a = .ok p) :
      Goes s i a holder output .called (.waiting p) holder output
  | takes {p : Parcel} (free : holder = none) :
      Goes s i a holder output (.waiting p) (.printing p (.text (Parcel.bytes p.text)) []) (some i)
        output
  | hands {p : Parcel} {before after : Unwritten} {handed handed' : List UInt8}
      (same : handed' ++ p.rest after = handed ++ p.rest before) :
      Goes s i a holder output (.printing p before handed) (.printing p after handed') holder output
  | comesOut {p : Parcel} {unwritten : Unwritten} {out handed : List UInt8} :
      Goes s i a holder output (.printing p unwritten (out ++ handed))
        (.printing p unwritten handed) holder (output ++ out)
  | gives {p : Parcel} :
      Goes s i a holder output (.printing p .nothing []) (.delivered p ⟨p.agent, "stdout"⟩) none
        output
  | rests {stage : PrintStage} : Goes s i a holder output stage stage holder output

theorem goes_of_goOn (gone : s.goOn i a holder output stage move = (stage', holder', output')) :
    Goes s i a holder output stage stage' holder' output' := by
  unfold goOn at gone
  split at gone
  case h_1 =>
    split at gone
    next e failed =>
      cases gone
      exact .unrendered failed
    next p rendered =>
      cases gone
      exact .renders rendered
  case h_2 =>
    split at gone
    next =>
      cases gone
      exact .takes rfl
    next =>
      cases gone
      exact .rests
  case h_3 =>
    split at gone
    next ended =>
      cases gone
      exact .hands (by simp [Parcel.rest, ended])
    next =>
      cases gone
      exact .hands (by simp [Parcel.rest])
  case h_4 =>
    cases gone
    refine .hands ?_
    rw [Parcel.rest, Parcel.rest, List.append_assoc, ← List.append_assoc (List.take _ _),
      List.take_append_drop]
  case h_5 =>
    cases gone
    exact .hands (by simp [Parcel.rest])
  case h_6 =>
    cases gone
    refine .hands ?_
    rw [Parcel.rest, Parcel.rest, List.append_assoc, List.take_append_drop]
  case h_7 =>
    cases gone
    exact .gives
  case h_8 p unwritten handed n =>
    cases gone
    have split : Goes s i a holder output
        (.printing p unwritten (handed.take n ++ handed.drop n))
        (.printing p unwritten (handed.drop n)) holder (output ++ handed.take n) := .comesOut
    rwa [List.take_append_drop] at split
  case h_9 =>
    cases gone
    exact .rests

end OutputSink

namespace PrintRun

variable {r : PrintRun} {call : PrintCall} {stage : PrintStage} {holder : Option Nat}
  {output : List UInt8} {i j : Nat}

/-- The stage of the call with the given number. -/
def stage? (r : PrintRun) (i : Nat) : Option PrintStage := r.calls[i]?.map (·.stage)

/-- The run after one of its calls has come to another stage. -/
def moved (r : PrintRun) (i : Nat) (call : PrintCall) (stage : PrintStage) (holder : Option Nat)
    (output : List UInt8) : PrintRun :=
  ⟨r.calls.set i ⟨call.agent, stage⟩, holder, output⟩

theorem getElem?_moved (inside : r.calls[i]? = some call) :
    (r.moved i call stage holder output).calls[j]? =
      if j = i then some ⟨call.agent, stage⟩ else r.calls[j]? :=
  getElem?_set_of_getElem? inside

theorem stage?_moved (inside : r.calls[i]? = some call) :
    (r.moved i call stage holder output).stage? j =
      if j = i then some stage else r.stage? j := by
  rw [stage?, getElem?_moved inside]
  split <;> rfl

theorem moved_self (inside : r.calls[i]? = some call) :
    r.moved i call call.stage r.holder r.output = r := by
  obtain ⟨bound, rfl⟩ := List.getElem?_eq_some_iff.mp inside
  rw [moved, List.set_getElem_self]

theorem map_agent_moved (inside : r.calls[i]? = some call) :
    (r.moved i call stage holder output).calls.map (·.agent) = r.calls.map (·.agent) :=
  map_set_of_getElem? inside rfl

end PrintRun

namespace OutputSink

theorem turn_cases (s : OutputSink) (r : PrintRun) (i : Nat) (move : PrintMove) :
    s.turn r i move = r ∨ ∃ call stage holder output, r.calls[i]? = some call ∧
      s.Goes i call.agent r.holder r.output call.stage stage holder output ∧
      s.turn r i move = r.moved i call stage holder output := by
  cases inside : r.calls[i]? with
  | none => exact .inl (by rw [turn, inside])
  | some call => exact .inr ⟨call, _, _, _, rfl, goes_of_goOn rfl, by rw [turn, inside]; rfl⟩

end OutputSink
end AgentManifest
