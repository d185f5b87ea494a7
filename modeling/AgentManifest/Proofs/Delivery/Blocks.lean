import AgentManifest.Proofs.Delivery.Completion

/-! Blocks of agents come out whole. Whatever turns the calls of a sink that prints take, the output
is the blocks of the calls that have a receipt, each of them once, and behind them at most the
beginning of the block of the one call that has the output. -/

namespace AgentManifest
namespace OutputSink

/-- The bytes of the block that the call with the given number is to print. -/
def blockAt (s : OutputSink) (agents : List Agent) (i : Nat) : List UInt8 :=
  match agents[i]? with
  | none => []
  | some a => Parcel.bytes (s.block a)

variable {s : OutputSink} {agents : List Agent} {r : PrintRun} {call : PrintCall} {a : Agent}
  {p : Parcel} {i j : Nat} {stage : PrintStage} {holder : Option Nat} {output : List UInt8}

/-- What holds of a call by itself. -/
structure CallSound (s : OutputSink) (call : PrintCall) : Prop where
  parcel : ∀ p, call.stage.parcel? = some p → s.form.parcel s.mode call.agent = .ok p
  delivered : ∀ p receipt, call.stage = .delivered p receipt → receipt = ⟨p.agent, "stdout"⟩
  refused : ∀ chain, call.stage = .refused chain → ∃ e,
    s.form.parcel s.mode call.agent = .error e ∧ chain = e.chain

theorem callSound_called : s.CallSound ⟨a, .called⟩ :=
  ⟨nofun, nofun, nofun⟩

theorem CallSound.goes (sound : s.CallSound call)
    (goes : s.Goes i call.agent r.holder r.output call.stage stage holder output) :
    s.CallSound ⟨call.agent, stage⟩ := by
  obtain ⟨agent, before⟩ := call
  dsimp only at goes
  cases goes with
  | unrendered failed =>
      refine ⟨nofun, nofun, ?_⟩
      rintro chain ⟨⟩
      exact ⟨_, failed, rfl⟩
  | renders rendered =>
      refine ⟨?_, nofun, nofun⟩
      rintro p ⟨⟩
      exact rendered
  | takes | hands | comesOut => exact ⟨sound.parcel, nofun, nofun⟩
  | gives =>
      refine ⟨sound.parcel, ?_, nofun⟩
      rintro p receipt ⟨⟩
      rfl
  | rests => exact sound

end OutputSink

namespace PrintRun

variable {s : OutputSink} {agents : List Agent} {r : PrintRun} {call : PrintCall}
  {p : Parcel} {i j : Nat} {stage : PrintStage} {holder : Option Nat} {output begun : List UInt8}
  {order : List Nat}

def Delivered (r : PrintRun) (i : Nat) : Prop :=
  ∃ p receipt, r.stage? i = some (.delivered p receipt)

def Printing (r : PrintRun) (i : Nat) : Prop :=
  ∃ p unwritten handed, r.stage? i = some (.printing p unwritten handed)

/-- The output, told by who has printed and by what has come out of the block under way. -/
structure Told (s : OutputSink) (agents : List Agent) (r : PrintRun) (order : List Nat)
    (begun : List UInt8) : Prop where
  nodup : order.Nodup
  delivered : ∀ i, i ∈ order ↔ r.Delivered i
  output : r.output = order.flatMap (s.blockAt agents) ++ begun
  /-- What has come out of a block, has been handed over and is left makes up the block. -/
  whole : ∀ i p unwritten handed, r.stage? i = some (.printing p unwritten handed) →
    begun ++ handed ++ p.rest unwritten = Parcel.bytes p.block
  free : r.holder = none → begun = []

/-- What holds of calls side by side, whatever turns they have taken. -/
structure Sound (s : OutputSink) (agents : List Agent) (r : PrintRun) : Prop where
  calls : ∀ (i : Nat) call, r.calls[i]? = some call → s.CallSound call
  /-- Who prints has the output, and so nobody else prints. -/
  holder : ∀ i, r.holder = some i ↔ r.Printing i
  told : ∃ order begun, Told s agents r order begun
  agents : r.calls.map (·.agent) = agents

theorem stage?_start (agents : List Agent) (i : Nat) :
    (OutputSink.start agents).stage? i = agents[i]?.map fun _ => .called := by
  simp [stage?, OutputSink.start, Function.comp_def]

theorem sound_start (s : OutputSink) (agents : List Agent) :
    Sound s agents (OutputSink.start agents) := by
  have called : ∀ {i stage}, (OutputSink.start agents).stage? i = some stage → stage = .called := by
    intro i stage found
    rw [stage?_start] at found
    obtain ⟨a, -, same⟩ := Option.map_eq_some_iff.mp found
    exact same.symm
  refine ⟨fun i call inside => ?_, fun i => ?_, ⟨[], [], ?_⟩,
    by simp [OutputSink.start, Function.comp_def]⟩
  · obtain ⟨a, -, rfl⟩ := List.mem_map.mp (List.mem_of_getElem? inside)
    exact OutputSink.callSound_called
  · refine ⟨nofun, ?_⟩
    rintro ⟨p, unwritten, handed, found⟩
    cases called found
  · refine ⟨List.nodup_nil, fun i => ⟨nofun, ?_⟩, rfl, ?_, fun _ => rfl⟩
    · rintro ⟨p, receipt, found⟩
      cases called found
    · intro i p unwritten handed found
      cases called found

theorem stage?_eq (inside : r.calls[i]? = some call) : r.stage? i = some call.stage := by
  rw [stage?, inside, Option.map_some]

/-- A turn in which no call is done with its block: more of the block under way has come out. -/
theorem Told.moved (told : Told s agents r order begun) (out : List UInt8)
    (inside : r.calls[i]? = some call) (before : ∀ p receipt, call.stage ≠ .delivered p receipt)
    (after : ∀ p receipt, stage ≠ .delivered p receipt)
    (whole : ∀ p unwritten handed, stage = .printing p unwritten handed →
      begun ++ out ++ handed ++ p.rest unwritten = Parcel.bytes p.block)
    (alone : ∀ j, j ≠ i → r.Printing j → out = []) (free : holder = none → begun ++ out = []) :
    Told s agents (r.moved i call stage holder (r.output ++ out)) order (begun ++ out) := by
  refine ⟨told.nodup, fun j => ?_, ?_, fun j p unwritten handed found => ?_, free⟩
  · rw [told.delivered, Delivered, Delivered, stage?_moved inside]
    split
    next here => simp [here, stage?_eq inside, before, after]
    next => rfl
  · rw [PrintRun.moved, told.output, List.append_assoc]
  · rw [stage?_moved inside] at found
    split at found
    next => exact whole p unwritten handed (Option.some.inj found)
    next other =>
      rw [alone j other ⟨p, unwritten, handed, found⟩, List.append_nil]
      exact told.whole j p unwritten handed found

/-- A call gives the output back when all of its block has come out. -/
theorem Told.gives (told : Told s agents r order begun) (inside : r.calls[i]? = some call)
    (before : call.stage = .printing p .nothing [])
    (block : s.blockAt agents i = Parcel.bytes p.block) (alone : ∀ j, r.Printing j → j = i)
    (receipt : Receipt) :
    Told s agents (r.moved i call (.delivered p receipt) none r.output) (order ++ [i]) [] := by
  have here := stage?_eq inside
  rw [before] at here
  have complete : begun = Parcel.bytes p.block := by
    simpa [Parcel.rest] using told.whole i p .nothing [] here
  have fresh : i ∉ order := by
    rw [told.delivered]
    rintro ⟨q, receipt, found⟩
    cases here.symm.trans found
  refine ⟨?_, fun j => ?_, ?_, fun j q unwritten handed found => ?_, fun _ => rfl⟩
  · refine List.nodup_append.mpr ⟨told.nodup, by simp, fun j listed k last same => ?_⟩
    obtain rfl := List.mem_singleton.mp last
    exact fresh (same ▸ listed)
  · rw [List.mem_append, List.mem_singleton, told.delivered, Delivered, Delivered,
      stage?_moved inside]
    by_cases same : j = i
    · simp [same]
    · simp [same]
  · rw [PrintRun.moved, told.output, complete, List.flatMap_append, List.flatMap_singleton, block,
      List.append_nil]
  · rw [stage?_moved inside] at found
    split at found
    next => cases found
    next other => exact absurd (alone j ⟨q, unwritten, handed, found⟩) other

theorem Sound.blockAt (sound : Sound s agents r) (inside : r.calls[i]? = some call) :
    s.blockAt agents i = Parcel.bytes (s.block call.agent) := by
  rw [OutputSink.blockAt, ← sound.agents, List.getElem?_map, inside, Option.map_some]

theorem Sound.blockAt_parcel (sound : Sound s agents r) (inside : r.calls[i]? = some call)
    (has : call.stage.parcel? = some p) : s.blockAt agents i = Parcel.bytes p.block := by
  rw [sound.blockAt inside, OutputSink.block, (sound.calls i call inside).parcel p has]

/-- Only one call can be printing. -/
theorem Sound.alone (sound : Sound s agents r) (first : r.Printing i) (second : r.Printing j) :
    j = i :=
  Option.some.inj (((sound.holder j).mpr second).symm.trans ((sound.holder i).mpr first))

/-- A run stays sound if the call that has its turn does, the output is with who prints, and what
has come out is told as before. -/
theorem Sound.moved (sound : Sound s agents r) (inside : r.calls[i]? = some call)
    (own : s.CallSound ⟨call.agent, stage⟩)
    (holds : ∀ j, holder = some j ↔
      if j = i then ∃ p unwritten handed, stage = .printing p unwritten handed else r.Printing j)
    (told : ∃ order begun, Told s agents (r.moved i call stage holder output) order begun) :
    Sound s agents (r.moved i call stage holder output) := by
  refine ⟨fun j other found => ?_, fun j => (holds j).trans ?_, told,
    (map_agent_moved inside).trans sound.agents⟩
  · rw [getElem?_moved inside] at found
    split at found
    next =>
      cases found
      exact own
    next => exact sound.calls j other found
  · simp only [Printing, stage?_moved inside]
    split <;> simp

/-- A call that does not print yet goes on without the output. -/
theorem Sound.waits (sound : Sound s agents r) (inside : r.calls[i]? = some call)
    (before : call.stage = .called) (own : s.CallSound ⟨call.agent, stage⟩)
    (silent : ∀ p unwritten handed, stage ≠ .printing p unwritten handed)
    (undelivered : ∀ p receipt, stage ≠ .delivered p receipt) :
    Sound s agents (r.moved i call stage r.holder r.output) := by
  obtain ⟨order, begun, told⟩ := sound.told
  have here := stage?_eq inside
  refine sound.moved inside own (fun j => ?_) ⟨order, begun, ?_⟩
  · rw [sound.holder]
    split
    next same => simp [same, Printing, here, before, silent]
    next => rfl
  · simpa using told.moved [] inside (by simp [before]) undelivered
      (fun p unwritten handed same => absurd same (silent p unwritten handed)) (fun _ _ _ => rfl)
      (by simpa using told.free)

/-- A call takes the output when nobody has it. -/
theorem Sound.takes (sound : Sound s agents r) (inside : r.calls[i]? = some call)
    (before : call.stage = .waiting p) (free : r.holder = none)
    (own : s.CallSound ⟨call.agent, .printing p (.text (Parcel.bytes p.text)) []⟩) :
    Sound s agents (r.moved i call (.printing p (.text (Parcel.bytes p.text)) []) (some i)
      r.output) := by
  obtain ⟨order, begun, told⟩ := sound.told
  have nobody : ∀ j, ¬r.Printing j := fun j printing => by
    simpa [free] using (sound.holder j).mpr printing
  have nothing : begun = [] := told.free free
  refine sound.moved inside own (fun j => ?_) ⟨order, begun, ?_⟩
  · by_cases same : j = i
    · simp [same]
    · simp [same, Ne.symm same, nobody j]
  · have whole : ∀ q unwritten handed,
        PrintStage.printing p (.text (Parcel.bytes p.text)) [] = .printing q unwritten handed →
        begun ++ [] ++ handed ++ q.rest unwritten = Parcel.bytes q.block := by
      rintro q unwritten handed ⟨⟩
      simp [nothing, Parcel.rest, Parcel.bytes_block]
    have told' : Told s agents (r.moved i call (.printing p (.text (Parcel.bytes p.text)) [])
        (some i) (r.output ++ [])) order (begun ++ []) :=
      told.moved [] inside (by simp [before]) (by simp) whole (fun _ _ _ => rfl) (by simp)
    simpa using told'

/-- The block under way goes on: what has come out of it, has been handed over and is left still
makes it up. -/
theorem Sound.prints {unwritten unwritten' : Unwritten} {handed handed' : List UInt8}
    (sound : Sound s agents r) (out : List UInt8) (inside : r.calls[i]? = some call)
    (before : call.stage = .printing p unwritten handed)
    (own : s.CallSound ⟨call.agent, .printing p unwritten' handed'⟩)
    (same : out ++ handed' ++ p.rest unwritten' = handed ++ p.rest unwritten) :
    Sound s agents
      (r.moved i call (.printing p unwritten' handed') r.holder (r.output ++ out)) := by
  obtain ⟨order, begun, told⟩ := sound.told
  have here := stage?_eq inside
  rw [before] at here
  have printing : r.Printing i := ⟨p, unwritten, handed, here⟩
  have held : r.holder = some i := (sound.holder i).mpr printing
  refine sound.moved inside own (fun j => ?_) ⟨order, begun ++ out, ?_⟩
  · rw [sound.holder]
    split
    next same => simp [same, printing]
    next => rfl
  · refine told.moved out inside (by simp [before]) (by simp) ?_
      (fun j other printing' => absurd (sound.alone printing printing') other) (by simp [held])
    rintro q left kept ⟨⟩
    rw [List.append_assoc begun, List.append_assoc begun, same, ← List.append_assoc]
    exact told.whole i p unwritten handed here

/-- A call gives the output back with its block complete. -/
theorem Sound.gives {receipt : Receipt} (sound : Sound s agents r)
    (inside : r.calls[i]? = some call) (before : call.stage = .printing p .nothing [])
    (own : s.CallSound ⟨call.agent, .delivered p receipt⟩) :
    Sound s agents (r.moved i call (.delivered p receipt) none r.output) := by
  obtain ⟨order, begun, told⟩ := sound.told
  have here := stage?_eq inside
  rw [before] at here
  have printing : r.Printing i := ⟨p, .nothing, [], here⟩
  have block := sound.blockAt_parcel inside (by rw [before]; rfl)
  refine sound.moved inside own (fun j => ?_) ⟨order ++ [i], [],
    told.gives inside before block (fun j => sound.alone printing) receipt⟩
  by_cases same : j = i
  · simp [same]
  · have idle : ¬r.Printing j := fun printing' => same (sound.alone printing printing')
    simp [same, idle]

theorem Sound.turn (sound : Sound s agents r) (i : Nat) (move : PrintMove) :
    Sound s agents (s.turn r i move) := by
  obtain same | ⟨call, stage, holder, output, inside, goes, gone⟩ := s.turn_cases r i move
  · rwa [same]
  rw [gone]
  have own := (sound.calls i call inside).goes goes
  generalize before : call.stage = stage₀ at goes
  cases goes with
  | unrendered failed => exact sound.waits inside before own (by simp) (by simp)
  | renders rendered => exact sound.waits inside before own (by simp) (by simp)
  | takes free => exact sound.takes inside before free own
  | hands same => simpa using sound.prints [] inside before own (by simpa using same)
  | comesOut => exact sound.prints _ inside before own (by simp)
  | gives => exact sound.gives inside before own
  | rests => rwa [← before, moved_self inside]

theorem sound_run (s : OutputSink) (agents : List Agent) (turns : List (Nat × PrintMove)) :
    Sound s agents (s.run agents turns) := by
  have kept : ∀ r, Sound s agents r → Sound s agents (s.onward r turns) := by
    induction turns with
    | nil => exact fun r sound => sound
    | cons first turns ih => exact fun r sound => ih _ (sound.turn first.1 first.2)
  exact kept _ (sound_start s agents)

end PrintRun

namespace OutputSink

variable {s : OutputSink} {agents : List Agent} {r : PrintRun} {call : PrintCall} {a : Agent}
  {i : Nat} {emission : Emission} {receipt : Receipt}

/-- A call that nobody disturbs answers at once, and prints the block of its agent. -/
theorem run_emit (s : OutputSink) (a : Agent) (claims : Claims) (w : Workspace) :
    (((s.sink (m := StateM Workspace)).emit a).run claims).run w =
      match s.form.parcel s.mode a with
      | .error e => ((.failed e.chain, claims), w)
      | .ok p =>
        ((.delivered ⟨p.agent, "stdout"⟩, claims), { w with printed := w.printed ++ p.block }) := by
  cases rendered : s.form.parcel s.mode a with
  | error e =>
      simp only [sink, Sink.writing, rendered]
      rfl
  | ok p =>
      simp only [sink, Sink.writing, rendered, Destination.deliver]
      rfl

/-- What calls are held to whose sink prints. -/
structure PrintedWhole (s : OutputSink) (agents : List Agent) (r : PrintRun) : Prop where
  /-- The output is the blocks of the calls with a receipt, each once, and behind them the beginning
  of one more if a call has the output. -/
  blocks : ∃ (order : List Nat) (begun : List UInt8), order.Nodup ∧
    (∀ i, i ∈ order ↔ ∃ call receipt, r.calls[i]? = some call ∧
      call.stage.emission? = some (.delivered receipt)) ∧
    r.output = order.flatMap (s.blockAt agents) ++ begun ∧
    (begun ≠ [] → ∃ i, r.holder = some i ∧ i ∉ order ∧ begun <+: s.blockAt agents i)
  /-- The block of a call with a receipt is what its agent looks like in the form of the sink, with
  a newline at the end. -/
  rendered : ∀ (i : Nat) call receipt, r.calls[i]? = some call →
    call.stage.emission? = some (.delivered receipt) → ∃ text,
      s.form.render s.mode call.agent = .ok text ∧
      receipt = ⟨call.agent.qualifiedName, "stdout"⟩ ∧
      s.blockAt agents i = Parcel.bytes
        (if text.toList.getLast? = some '\n' then text else text ++ "\n")
  /-- A call fails if its agent has no text in this form, and nothing is printed for it. -/
  unrendered : ∀ (i : Nat) call e, r.calls[i]? = some call →
    s.form.render s.mode call.agent = .error e →
      s.blockAt agents i = [] ∧ r.holder ≠ some i ∧
      ∀ emission, call.stage.emission? = some emission → emission = .failed e.chain
  /-- Each call answers what it would answer undisturbed, and prints what it would print. -/
  undisturbed : ∀ (i : Nat) call emission, r.calls[i]? = some call →
    call.stage.emission? = some emission → ∀ claims w,
      (((s.sink (m := StateM Workspace)).emit call.agent).run claims).run w =
        ((emission, claims), { w with printed := w.printed ++ s.block call.agent })
  /-- No call is stuck: with more turns all of them come to their ends. -/
  completes : ∃ more, ∀ call ∈ (s.onward r more).calls, call.stage.emission?.isSome = true
  agents : r.calls.map (·.agent) = agents

theorem emission?_eq_delivered {stage : PrintStage} :
    stage.emission? = some (.delivered receipt) ↔ ∃ p, stage = .delivered p receipt := by
  cases stage <;> simp [PrintStage.emission?]

end OutputSink

namespace PrintRun.Sound

variable {s : OutputSink} {agents : List Agent} {r : PrintRun} {call : PrintCall}
  {i : Nat} {emission : Emission} {receipt : Receipt}

theorem delivered_iff (i : Nat) : r.Delivered i ↔ ∃ call receipt, r.calls[i]? = some call ∧
    call.stage.emission? = some (.delivered receipt) := by
  rw [Delivered]
  constructor
  · rintro ⟨p, receipt, found⟩
    obtain ⟨call, inside, stage⟩ := Option.map_eq_some_iff.mp found
    exact ⟨call, receipt, inside, OutputSink.emission?_eq_delivered.mpr ⟨p, stage⟩⟩
  · rintro ⟨call, receipt, inside, told⟩
    obtain ⟨p, stage⟩ := OutputSink.emission?_eq_delivered.mp told
    exact ⟨p, receipt, by rw [stage?_eq inside, stage]⟩

theorem blocks (sound : Sound s agents r) : ∃ (order : List Nat) (begun : List UInt8),
    order.Nodup ∧
    (∀ i, i ∈ order ↔ ∃ call receipt, r.calls[i]? = some call ∧
      call.stage.emission? = some (.delivered receipt)) ∧
    r.output = order.flatMap (s.blockAt agents) ++ begun ∧
    (begun ≠ [] → ∃ i, r.holder = some i ∧ i ∉ order ∧ begun <+: s.blockAt agents i) := by
  obtain ⟨order, begun, told⟩ := sound.told
  refine ⟨order, begun, told.nodup, fun i => (told.delivered i).trans (delivered_iff i),
    told.output, fun out => ?_⟩
  obtain ⟨i, held⟩ := Option.ne_none_iff_exists'.mp fun free => out (told.free free)
  obtain ⟨p, unwritten, handed, here⟩ := (sound.holder i).mp held
  refine ⟨i, held, fun listed => ?_, ?_⟩
  · obtain ⟨q, receipt, found⟩ := (told.delivered i).mp listed
    cases here.symm.trans found
  · obtain ⟨call, inside, stage⟩ := Option.map_eq_some_iff.mp here
    rw [sound.blockAt_parcel inside (by rw [stage]; rfl), ← told.whole i p unwritten handed here,
      List.append_assoc]
    exact List.prefix_append _ _

theorem rendered (sound : Sound s agents r) (inside : r.calls[i]? = some call)
    (told : call.stage.emission? = some (.delivered receipt)) : ∃ text,
      s.form.render s.mode call.agent = .ok text ∧
      receipt = ⟨call.agent.qualifiedName, "stdout"⟩ ∧
      s.blockAt agents i = Parcel.bytes
        (if text.toList.getLast? = some '\n' then text else text ++ "\n") := by
  obtain ⟨p, stage⟩ := OutputSink.emission?_eq_delivered.mp told
  have own := sound.calls i call inside
  have has : call.stage.parcel? = some p := by rw [stage]; rfl
  have block := sound.blockAt_parcel inside has
  have address := own.delivered p receipt stage
  obtain ⟨text, drawn, rfl⟩ := OutputForm.parcel_eq_ok.mp (own.parcel p has)
  exact ⟨text, drawn, address, block⟩

theorem unrendered {e : RenderError} (sound : Sound s agents r) (inside : r.calls[i]? = some call)
    (failed : s.form.render s.mode call.agent = .error e) :
    s.blockAt agents i = [] ∧ r.holder ≠ some i ∧
      ∀ emission, call.stage.emission? = some emission → emission = .failed e.chain := by
  have own := sound.calls i call inside
  have failed := OutputForm.parcel_eq_error.mpr failed
  have empty : ∀ p, call.stage.parcel? ≠ some p := fun p has => by
    cases failed.symm.trans (own.parcel p has)
  refine ⟨?_, fun held => ?_, fun emission answered => ?_⟩
  · rw [sound.blockAt inside, OutputSink.block, failed]
    rfl
  · obtain ⟨p, unwritten, handed, here⟩ := (sound.holder i).mp held
    obtain stage := Option.some.inj ((stage?_eq inside).symm.trans here)
    exact empty p (by rw [stage]; rfl)
  · cases stage : call.stage with
    | delivered p receipt => exact absurd (by rw [stage]; rfl) (empty p)
    | refused chain =>
        obtain ⟨e', failed', rfl⟩ := own.refused chain stage
        cases failed.symm.trans failed'
        rw [stage] at answered
        exact (Option.some.inj answered).symm
    | called | waiting | printing => simp [stage, PrintStage.emission?] at answered

theorem undisturbed (sound : Sound s agents r) (inside : r.calls[i]? = some call)
    (answered : call.stage.emission? = some emission) (claims : Claims) (w : Workspace) :
    (((s.sink (m := StateM Workspace)).emit call.agent).run claims).run w =
      ((emission, claims), { w with printed := w.printed ++ s.block call.agent }) := by
  have own := sound.calls i call inside
  rw [OutputSink.run_emit, OutputSink.block]
  cases stage : call.stage with
  | delivered p receipt =>
      rw [stage] at answered
      obtain rfl := Option.some.inj answered
      obtain rfl := own.delivered p receipt stage
      rw [own.parcel p (by rw [stage]; rfl)]
  | refused chain =>
      rw [stage] at answered
      obtain rfl := Option.some.inj answered
      obtain ⟨e, failed, rfl⟩ := own.refused chain stage
      rw [failed]
      simp
  | called | waiting | printing => simp [stage, PrintStage.emission?] at answered

end PrintRun.Sound

/-- Calls side by side print their blocks one after the other, whatever turns they take: nothing
stands inside a block that is not its own, no block is lost or comes twice, and who has no text
leaves nothing in the output. No call keeps the others from coming to their ends. -/
theorem OutputSink.calls_print_whole (s : OutputSink) (agents : List Agent)
    (turns : List (Nat × PrintMove)) : s.PrintedWhole agents (s.run agents turns) :=
  have sound := PrintRun.sound_run s agents turns
  { blocks := sound.blocks
    rendered _ _ _ inside told := sound.rendered inside told
    unrendered _ _ _ inside failed := sound.unrendered inside failed
    undisturbed _ _ _ inside answered := sound.undisturbed inside answered
    completes := exists_over fun i held => (sound.holder i).mp held
    agents := sound.agents }

end AgentManifest
