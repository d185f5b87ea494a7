import Mathlib.Logic.Relation
import AgentManifest.Proofs.Delivery.Printing

/-! Calls of a sink that prints come to an end. A call that has the output, or finds it free, can go
on by itself until it is over and the output is free again. So every run can be carried on until all
of its calls are over. -/

namespace AgentManifest
namespace OutputSink

/-- What the sink prints for an agent; nothing if the agent has no text in its form. -/
def block (s : OutputSink) (a : Agent) : String :=
  match s.form.parcel s.mode a with
  | .error _ => ""
  | .ok p => p.block

/-- Where a call ends that nobody disturbs. -/
def ended (s : OutputSink) (a : Agent) : PrintStage :=
  match s.form.parcel s.mode a with
  | .error e => .refused e.chain
  | .ok p => .delivered p ⟨p.agent, "stdout"⟩

variable {s : OutputSink} {i : Nat} {a : Agent} {p : Parcel} {holder : Option Nat}
  {output handed left : List UInt8} {unwritten : Unwritten} {stage : PrintStage}

/-- A turn of one call takes its stage, who has the output and the output so far. -/
def Steps (s : OutputSink) (i : Nat) (a : Agent)
    (before after : PrintStage × Option Nat × List UInt8) : Prop :=
  ∃ move, s.goOn i a before.2.1 before.2.2 before.1 move = after

/-- Some turns of one call. -/
abbrev Drives (s : OutputSink) (i : Nat) (a : Agent) :=
  Relation.ReflTransGen (s.Steps i a)

theorem drives_goOn (move : PrintMove) : s.Drives i a (stage, holder, output)
    (s.goOn i a holder output stage move) :=
  .single ⟨move, rfl⟩

theorem drives_newline : s.Drives i a (.printing p (.newline left) handed, holder, output)
    (.printing p .nothing (handed ++ left), holder, output) := by
  have spent (handed : List UInt8) : s.Drives i a (.printing p (.newline []) handed, holder, output)
      (.printing p .nothing handed, holder, output) := drives_goOn (.goOn 0)
  cases left with
  | nil => simpa using spent handed
  | cons first rest =>
      refine .trans (drives_goOn (.goOn (first :: rest).length)) ?_
      simpa [goOn] using spent (handed ++ first :: rest)

theorem drives_text : s.Drives i a (.printing p (.text left) handed, holder, output)
    (.printing p .nothing (handed ++ left ++ p.ending), holder, output) := by
  have spent (handed : List UInt8) : s.Drives i a (.printing p (.text []) handed, holder, output)
      (.printing p .nothing (handed ++ p.ending), holder, output) := by
    refine .trans (drives_goOn (.goOn 0)) ?_
    cases ending : p.ending with
    | nil => simpa [goOn, ending] using Relation.ReflTransGen.refl
    | cons first rest => simpa [goOn, ending] using drives_newline
  cases left with
  | nil => simpa using spent handed
  | cons first rest =>
      refine .trans (drives_goOn (.goOn (first :: rest).length)) ?_
      simpa [goOn] using spent (handed ++ first :: rest)

/-- A call that has the output prints what is left of its block and gives the output back. -/
theorem drives_printing : s.Drives i a (.printing p unwritten handed, holder, output)
    (.delivered p ⟨p.agent, "stdout"⟩, none, output ++ (handed ++ p.rest unwritten)) := by
  have handsOver : s.Drives i a (.printing p unwritten handed, holder, output)
      (.printing p .nothing (handed ++ p.rest unwritten), holder, output) := by
    cases unwritten with
    | text left => simpa [Parcel.rest] using drives_text
    | newline left => exact drives_newline
    | nothing => simpa [Parcel.rest] using Relation.ReflTransGen.refl
  have comesOut (out : List UInt8) : s.Drives i a (.printing p .nothing out, holder, output)
      (.printing p .nothing [], holder, output ++ out) := by
    refine .trans (drives_goOn (.comeOut out.length)) ?_
    simpa [goOn] using Relation.ReflTransGen.refl
  exact (handsOver.trans (comesOut _)).trans (drives_goOn (.goOn 0))

/-- A call that finds the output free prints its block. -/
theorem drives_waiting : s.Drives i a (.waiting p, none, output)
    (.delivered p ⟨p.agent, "stdout"⟩, none, output ++ Parcel.bytes p.block) := by
  have block : [] ++ p.rest (.text (Parcel.bytes p.text)) = Parcel.bytes p.block := by
    rw [Parcel.bytes_block, Parcel.rest, List.nil_append]
  rw [← block]
  exact .trans (drives_goOn (.goOn 0)) drives_printing

theorem drives_called : s.Drives i a (.called, none, output)
    (s.ended a, none, output ++ Parcel.bytes (s.block a)) := by
  refine .trans (drives_goOn (.goOn 0)) ?_
  rw [goOn, ended, block]
  cases s.form.parcel s.mode a with
  | error e => simpa [Parcel.bytes] using Relation.ReflTransGen.refl
  | ok p => exact drives_waiting

theorem isSome_emission?_ended : (s.ended a).emission?.isSome = true := by
  rw [ended]
  split <;> rfl

/-- A call that can have the output comes to its end and leaves the output free. -/
theorem exists_drives (s : OutputSink) (i : Nat) (a : Agent) (output : List UInt8)
    (able : holder = none ∨ ∃ p unwritten handed, stage = .printing p unwritten handed) :
    ∃ stage' output', s.Drives i a (stage, holder, output) (stage', none, output') ∧
      stage'.emission?.isSome = true := by
  obtain rfl | ⟨p, unwritten, handed, rfl⟩ := able
  · cases stage with
    | called => exact ⟨_, _, drives_called, isSome_emission?_ended⟩
    | waiting p => exact ⟨_, _, drives_waiting, rfl⟩
    | printing p unwritten handed => exact ⟨_, _, drives_printing, rfl⟩
    | delivered p receipt => exact ⟨_, _, .refl, rfl⟩
    | refused chain => exact ⟨_, _, .refl, rfl⟩
  · exact ⟨_, _, drives_printing, rfl⟩

variable {r : PrintRun} {call : PrintCall}

theorem onward_append (s : OutputSink) (r : PrintRun) (turns more : List (Nat × PrintMove)) :
    s.onward r (turns ++ more) = s.onward (s.onward r turns) more :=
  List.foldl_append

theorem length_onward (s : OutputSink) (r : PrintRun) (turns : List (Nat × PrintMove)) :
    (s.onward r turns).calls.length = r.calls.length := by
  induction turns generalizing r with
  | nil => rfl
  | cons first turns ih =>
      have same : (s.turn r first.1 first.2).calls.length = r.calls.length := by
        obtain same | ⟨call, stage, holder, output, -, -, gone⟩ := s.turn_cases r first.1 first.2
        · rw [same]
        · rw [gone, PrintRun.moved, List.length_set]
      exact (ih _).trans same

/-- What a call can do by itself it can do in a run. -/
theorem exists_onward_of_drives {after : PrintStage × Option Nat × List UInt8}
    (inside : r.calls[i]? = some call)
    (drives : s.Drives i call.agent (call.stage, r.holder, r.output) after) :
    ∃ more, s.onward r more = r.moved i call after.1 after.2.1 after.2.2 := by
  induction drives with
  | refl => exact ⟨[], (PrintRun.moved_self inside).symm⟩
  | @tail before after drives step ih =>
      obtain ⟨more, come⟩ := ih
      obtain ⟨move, rfl⟩ := step
      have here : (r.moved i call before.1 before.2.1 before.2.2).calls[i]? =
          some ⟨call.agent, before.1⟩ := by
        rw [PrintRun.getElem?_moved inside, if_pos rfl]
      refine ⟨more ++ [(i, move)], ?_⟩
      rw [onward_append, come, onward, List.foldl_cons, List.foldl_nil, turn, here]
      simp [PrintRun.moved]

/-- Calls can come to their ends one by one while the output is free. -/
theorem exists_over_below (s : OutputSink) (free : r.holder = none) (n : Nat) :
    ∃ more, (s.onward r more).holder = none ∧
      ∀ i < n, ∀ call, (s.onward r more).calls[i]? = some call →
        call.stage.emission?.isSome = true := by
  induction n with
  | zero => exact ⟨[], free, nofun⟩
  | succ n ih =>
      obtain ⟨more, free, finished⟩ := ih
      cases inside : (s.onward r more).calls[n]? with
      | none =>
          refine ⟨more, free, fun i bound call found => ?_⟩
          rcases Nat.lt_succ_iff_lt_or_eq.mp bound with before | rfl
          · exact finished i before call found
          · cases inside.symm.trans found
      | some last =>
          obtain ⟨stage, output, drives, told⟩ :=
            exists_drives s n last.agent (s.onward r more).output (.inl free)
          obtain ⟨further, come⟩ := exists_onward_of_drives inside drives
          refine ⟨more ++ further, ?_, fun i bound call found => ?_⟩
          · rw [onward_append, come, PrintRun.moved]
          · rw [onward_append, come, PrintRun.getElem?_moved inside] at found
            split at found
            next =>
              cases found
              exact told
            next other => exact finished i (by omega) call found

/-- If the output is with a call that prints, every call can come to its end. -/
theorem exists_over (held : ∀ i, r.holder = some i →
      ∃ p unwritten handed, r.stage? i = some (.printing p unwritten handed)) :
    ∃ more, ∀ call ∈ (s.onward r more).calls, call.stage.emission?.isSome = true := by
  obtain ⟨first, free⟩ : ∃ first, (s.onward r first).holder = none := by
    cases holder : r.holder with
    | none => exact ⟨[], holder⟩
    | some i =>
        obtain ⟨p, unwritten, handed, here⟩ := held i holder
        obtain ⟨call, inside, stage⟩ := Option.map_eq_some_iff.mp here
        obtain ⟨stage', output, drives, -⟩ :=
          exists_drives s i call.agent r.output (.inr ⟨p, unwritten, handed, stage⟩)
        obtain ⟨more, come⟩ := exists_onward_of_drives inside drives
        exact ⟨more, by rw [come, PrintRun.moved]⟩
  obtain ⟨more, -, finished⟩ := exists_over_below s free (s.onward r first).calls.length
  rw [← length_onward s _ more] at finished
  refine ⟨first ++ more, fun call listed => ?_⟩
  rw [onward_append] at listed
  obtain ⟨i, bound, found⟩ := List.mem_iff_getElem.mp listed
  exact finished i bound call (List.getElem?_eq_some_iff.mpr ⟨bound, found⟩)

end OutputSink
end AgentManifest
