import Mathlib.Logic.Function.Basic

/-! Two programs over shared tables of keyed entries and one mutex, run under any
scheduler. A step is one load, one store or deletion, or taking or releasing the
mutex. Programs that touch nothing the other one writes run as if one after the
other; what they touch is taken along their own run and not over all their
branches. -/
namespace Carrier.Interleaving

abbrev Memory (Table Key : Type) (Val : Table → Type) := (table : Table) → Key → Option (Val table)

inductive Program (Table Key : Type) (Val : Table → Type) where
  | done
  | crash
  | load (table : Table) (key : Key) (next : Option (Val table) → Program Table Key Val)
  | put (table : Table) (key : Key) (value : Option (Val table)) (next : Program Table Key Val)
  | lock (next : Program Table Key Val)
  | unlock (next : Program Table Key Val)

inductive Side where
  | first
  | second
  deriving DecidableEq, Repr

structure Config (Table Key : Type) (Val : Table → Type) where
  programs : Side → Program Table Key Val
  memory : Memory Table Key Val
  holder : Option Side

variable {Table Key : Type} {Val : Table → Type} [DecidableEq Table] [DecidableEq Key]

def write (memory : Memory Table Key Val) (table : Table) (key : Key) (value : Option (Val table)) :
    Memory Table Key Val :=
  Function.update memory table (Function.update (memory table) key value)

@[simp] theorem write_here (memory : Memory Table Key Val) (table : Table) (key : Key)
    (value : Option (Val table)) : write memory table key value table key = value := by
  simp [write]

theorem write_elsewhere (memory : Memory Table Key Val) {table other : Table} {key place : Key}
    (value : Option (Val table)) (away : ¬ (other = table ∧ place = key)) :
    write memory table key value other place = memory other place := by
  by_cases same : other = table
  · subst same
    have different : place ≠ key := fun here => away ⟨rfl, here⟩
    simp [write, different]
  · simp [write, same]

/-! One program alone. -/

/-- The memory a program leaves behind when nothing else runs; none if it crashes. -/
def run : Program Table Key Val → Memory Table Key Val → Option (Memory Table Key Val)
  | .done, memory => some memory
  | .crash, _ => none
  | .load table key next, memory => run (next (memory table key)) memory
  | .put table key value next, memory => run next (write memory table key value)
  | .lock next, memory => run next memory
  | .unlock next, memory => run next memory

def Reads : Program Table Key Val → Memory Table Key Val → Table → Key → Prop
  | .done, _ => fun _ _ => False
  | .crash, _ => fun _ _ => False
  | .load table key next, memory => fun other place =>
      (other = table ∧ place = key) ∨ Reads (next (memory table key)) memory other place
  | .put table key value next, memory => Reads next (write memory table key value)
  | .lock next, memory => Reads next memory
  | .unlock next, memory => Reads next memory

def Writes : Program Table Key Val → Memory Table Key Val → Table → Key → Prop
  | .done, _ => fun _ _ => False
  | .crash, _ => fun _ _ => False
  | .load table key next, memory => Writes (next (memory table key)) memory
  | .put table key value next, memory => fun other place =>
      (other = table ∧ place = key) ∨ Writes next (write memory table key value) other place
  | .lock next, memory => Writes next memory
  | .unlock next, memory => Writes next memory

theorem run_kept {program : Program Table Key Val} {memory last : Memory Table Key Val} {table : Table}
    {key : Key} (ran : run program memory = some last) (unwritten : ¬ Writes program memory table key) :
    last table key = memory table key := by
  induction program generalizing memory with
  | done =>
      cases ran
      rfl
  | crash => simp [run] at ran
  | load other place next ih => exact ih _ ran unwritten
  | put other place value next ih =>
      obtain ⟨away, rest⟩ := not_or.mp unwritten
      rw [ih ran rest, write_elsewhere memory value away]
  | lock next ih => exact ih ran unwritten
  | unlock next ih => exact ih ran unwritten

/-- From two memories a program does the same. -/
structure Alike (program : Program Table Key Val) (memory other : Memory Table Key Val) : Prop where
  reads : ∀ table key, Reads program other table key ↔ Reads program memory table key
  writes : ∀ table key, Writes program other table key ↔ Writes program memory table key
  crashes : run program memory = none → run program other = none
  ends : ∀ last, run program memory = some last → ∃ again, run program other = some again ∧
    ∀ table key, Writes program memory table key → again table key = last table key

theorem alike_of_agree {program : Program Table Key Val} {memory other : Memory Table Key Val}
    (agree : ∀ table key, Reads program memory table key → other table key = memory table key) :
    Alike program memory other := by
  induction program generalizing memory other with
  | done =>
      refine ⟨fun _ _ => Iff.rfl, fun _ _ => Iff.rfl, fun crashed => ?_, fun last ran => ?_⟩
      · simp [run] at crashed
      · exact ⟨other, rfl, fun _ _ written => written.elim⟩
  | crash =>
      refine ⟨fun _ _ => Iff.rfl, fun _ _ => Iff.rfl, fun _ => rfl, fun last ran => ?_⟩
      simp [run] at ran
  | load table key next ih =>
      have same : other table key = memory table key := agree table key (Or.inl ⟨rfl, rfl⟩)
      have rest : Alike (next (memory table key)) memory other :=
        ih _ fun table key read => agree table key (Or.inr read)
      constructor
      · intro place index
        simp only [Reads, same, rest.reads]
      · intro place index
        simp only [Writes, same, rest.writes]
      · simpa only [run, same] using rest.crashes
      · simpa only [run, same, Writes] using rest.ends
  | put table key value next ih =>
      have rest : Alike next (write memory table key value) (write other table key value) := by
        apply ih
        intro place index read
        by_cases here : place = table ∧ index = key
        · obtain ⟨rfl, rfl⟩ := here
          simp
        · rw [write_elsewhere _ value here, write_elsewhere _ value here]
          exact agree place index read
      constructor
      · exact rest.reads
      · intro place index
        simp only [Writes, rest.writes]
      · exact rest.crashes
      · intro last ran
        obtain ⟨again, ranToo, equal⟩ := rest.ends last ran
        refine ⟨again, ranToo, fun place index written => ?_⟩
        by_cases later : Writes next (write memory table key value) place index
        · exact equal place index later
        · -- Written here and not again: both memories still have this value.
          have ranOn : run next (write memory table key value) = some last := ran
          have unwritten : ¬ Writes next (write other table key value) place index :=
            fun written => later ((rest.writes place index).mp written)
          rw [run_kept ranOn later, run_kept ranToo unwritten]
          obtain ⟨rfl, rfl⟩ := written.resolve_right later
          simp
  | lock next ih => exact ⟨(ih agree).reads, (ih agree).writes, (ih agree).crashes, (ih agree).ends⟩
  | unlock next ih => exact ⟨(ih agree).reads, (ih agree).writes, (ih agree).crashes, (ih agree).ends⟩

/-! Both programs. -/

def proceed : Program Table Key Val → Memory Table Key Val → Option (Program Table Key Val × Memory Table Key Val)
  | .done, _ => none
  | .crash, _ => none
  | .load table key next, memory => some (next (memory table key), memory)
  | .put table key value next, memory => some (next, write memory table key value)
  | .lock next, memory => some (next, memory)
  | .unlock next, memory => some (next, memory)

/-- Who has the mutex after the step; none if the step has to wait for it. -/
def holderAfter (side : Side) (holder : Option Side) : Program Table Key Val → Option (Option Side)
  | .lock _ => if holder = none then some (some side) else none
  | .unlock _ => some none
  | _ => some holder

def advance (config : Config Table Key Val) (side : Side) : Option (Config Table Key Val) :=
  match proceed (config.programs side) config.memory, holderAfter side config.holder (config.programs side) with
  | some (program, memory), some holder =>
      some ⟨Function.update config.programs side program, memory, holder⟩
  | _, _ => none

def play : List Side → Config Table Key Val → Option (Config Table Key Val)
  | [], config => some config
  | side :: rest, config => (advance config side).bind (play rest)

theorem play_append (early late : List Side) (config : Config Table Key Val) :
    play (early ++ late) config = (play early config).bind (play late) := by
  induction early generalizing config with
  | nil => rfl
  | cons side rest ih =>
      simp only [List.cons_append, play]
      cases advance config side with
      | none => rfl
      | some next => exact ih next

theorem play_invariant {config reached : Config Table Key Val} {schedule : List Side}
    (Inv : Config Table Key Val → Prop)
    (kept : ∀ before side after, advance before side = some after → Inv before → Inv after)
    (played : play schedule config = some reached) (initial : Inv config) : Inv reached := by
  induction schedule generalizing config with
  | nil =>
      cases played
      exact initial
  | cons side rest ih =>
      obtain ⟨next, advanced, later⟩ := Option.bind_eq_some_iff.mp played
      exact ih later (kept config side next advanced initial)

theorem advance_cases {config next : Config Table Key Val} {side : Side}
    (advanced : advance config side = some next) : ∃ program memory holder,
    proceed (config.programs side) config.memory = some (program, memory) ∧
    holderAfter side config.holder (config.programs side) = some holder ∧
    next = ⟨Function.update config.programs side program, memory, holder⟩ := by
  unfold advance at advanced
  split at advanced
  · rename_i program memory holder proceeded held
    cases advanced
    exact ⟨program, memory, holder, proceeded, held, rfl⟩
  · simp at advanced

/-! Programs that stay out of each other's way. -/

structure Independent (one other : Program Table Key Val) (memory : Memory Table Key Val) : Prop where
  first : ∀ table key, Writes one memory table key →
    ¬ Reads other memory table key ∧ ¬ Writes other memory table key
  second : ∀ table key, Writes other memory table key →
    ¬ Reads one memory table key ∧ ¬ Writes one memory table key

theorem Independent.symm {one other : Program Table Key Val} {memory : Memory Table Key Val}
    (independent : Independent one other memory) : Independent other one memory :=
  ⟨independent.second, independent.first⟩

def serial (one other : Program Table Key Val) (memory : Memory Table Key Val) : Option (Memory Table Key Val) :=
  (run one memory).bind (run other)

theorem run_proceed {program next : Program Table Key Val} {memory after : Memory Table Key Val}
    (proceeded : proceed program memory = some (next, after)) : run next after = run program memory := by
  cases program <;> cases proceeded <;> rfl

theorem Reads.of_proceed {program next : Program Table Key Val} {memory after : Memory Table Key Val}
    {table : Table} {key : Key} (proceeded : proceed program memory = some (next, after))
    (read : Reads next after table key) : Reads program memory table key := by
  cases program with
  | done => cases proceeded
  | crash => cases proceeded
  | load =>
      cases proceeded
      exact Or.inr read
  | put =>
      cases proceeded
      exact read
  | lock =>
      cases proceeded
      exact read
  | unlock =>
      cases proceeded
      exact read

theorem Writes.of_proceed {program next : Program Table Key Val} {memory after : Memory Table Key Val}
    {table : Table} {key : Key} (proceeded : proceed program memory = some (next, after))
    (written : Writes next after table key) : Writes program memory table key := by
  cases program with
  | done => cases proceeded
  | crash => cases proceeded
  | load =>
      cases proceeded
      exact written
  | put =>
      cases proceeded
      exact Or.inr written
  | lock =>
      cases proceeded
      exact written
  | unlock =>
      cases proceeded
      exact written

theorem proceed_kept {program next : Program Table Key Val} {memory after : Memory Table Key Val}
    {table : Table} {key : Key} (proceeded : proceed program memory = some (next, after))
    (unwritten : ¬ Writes program memory table key) : after table key = memory table key := by
  cases program with
  | done => cases proceeded
  | crash => cases proceeded
  | load =>
      cases proceeded
      rfl
  | put =>
      cases proceeded
      exact write_elsewhere memory _ fun here => unwritten (Or.inl here)
  | lock =>
      cases proceeded
      rfl
  | unlock =>
      cases proceeded
      rfl

theorem Independent.alike {one other next : Program Table Key Val} {memory after : Memory Table Key Val}
    (independent : Independent one other memory) (proceeded : proceed one memory = some (next, after)) :
    Alike other memory after :=
  alike_of_agree fun table key read =>
    proceed_kept proceeded fun written => (independent.first table key written).1 read

theorem Independent.proceed {one other next : Program Table Key Val} {memory after : Memory Table Key Val}
    (independent : Independent one other memory)
    (proceeded : Interleaving.proceed one memory = some (next, after)) : Independent next other after := by
  have unnoticed : Alike other memory after := independent.alike proceeded
  constructor
  · intro table key written
    rw [unnoticed.reads, unnoticed.writes]
    exact independent.first table key (written.of_proceed proceeded)
  · intro table key written
    obtain ⟨unread, unwritten⟩ := independent.second table key ((unnoticed.writes table key).mp written)
    exact ⟨fun read => unread (read.of_proceed proceeded),
      fun written => unwritten (written.of_proceed proceeded)⟩

/-- A step of the later program can be made before the earlier one starts. -/
theorem Independent.serial_proceed {one other next : Program Table Key Val}
    {memory after : Memory Table Key Val} (independent : Independent one other memory)
    (proceeded : Interleaving.proceed other memory = some (next, after)) :
    serial one next after = serial one other memory := by
  have unnoticed : Alike one memory after := independent.symm.alike proceeded
  unfold serial
  cases ran : run one memory with
  | none => rw [unnoticed.crashes ran]; rfl
  | some middle =>
      obtain ⟨again, ranToo, equal⟩ := unnoticed.ends middle ran
      rw [ranToo]
      change run next again = run other middle
      cases other with
      | done => cases proceeded
      | crash => cases proceeded
      | load table key rest =>
          cases proceeded
          obtain rfl : again = middle := Option.some.inj (ranToo.symm.trans ran)
          have unwritten : ¬ Writes one memory table key :=
            fun written => (independent.first table key written).1 (Or.inl ⟨rfl, rfl⟩)
          rw [← run_kept ran unwritten]
          rfl
      | put table key value rest =>
          cases proceeded
          have moved : again = write middle table key value := by
            funext place index
            by_cases here : place = table ∧ index = key
            · obtain ⟨rfl, rfl⟩ := here
              have unwritten := (independent.second place index (Or.inl ⟨rfl, rfl⟩)).2
              rw [run_kept ranToo fun written => unwritten ((unnoticed.writes _ _).mp written)]
              simp
            · rw [write_elsewhere middle value here]
              by_cases written : Writes one memory place index
              · exact equal place index written
              · rw [run_kept ran written,
                  run_kept ranToo fun again => written ((unnoticed.writes _ _).mp again)]
                exact write_elsewhere memory value here
          rw [moved]
          rfl
      | lock rest =>
          cases proceeded
          obtain rfl : again = middle := Option.some.inj (ranToo.symm.trans ran)
          rfl
      | unlock rest =>
          cases proceeded
          obtain rfl : again = middle := Option.some.inj (ranToo.symm.trans ran)
          rfl

theorem Independent.serial_comm {one other : Program Table Key Val} {memory middle last : Memory Table Key Val}
    (independent : Independent one other memory) (ran : run one memory = some middle)
    (ranOn : run other middle = some last) : ∃ between again,
    run other memory = some between ∧ run one between = some again := by
  have unnoticed : Alike other memory middle := alike_of_agree fun table key read =>
    run_kept ran fun written => (independent.first table key written).1 read
  cases alone : run other memory with
  | none => simp [unnoticed.crashes alone] at ranOn
  | some between =>
      have unnoticedToo : Alike one memory between := alike_of_agree fun table key read =>
        run_kept alone fun written => (independent.second table key written).1 read
      obtain ⟨again, ranToo, -⟩ := unnoticedToo.ends middle ran
      exact ⟨between, again, rfl, ranToo⟩

def Idle : Program Table Key Val → Prop
  | .done => True
  | .load _ _ next => ∀ value, Idle (next value)
  | _ => False

theorem Idle.run {program : Program Table Key Val} (idle : Idle program) (memory : Memory Table Key Val) :
    Interleaving.run program memory = some memory := by
  induction program with
  | done => rfl
  | load table key next ih => exact ih _ (idle _)
  | crash => exact idle.elim
  | put => exact idle.elim
  | lock => exact idle.elim
  | unlock => exact idle.elim

theorem Idle.proceed {program next : Program Table Key Val} {memory after : Memory Table Key Val}
    (idle : Idle program) (proceeded : Interleaving.proceed program memory = some (next, after)) :
    Idle next ∧ after = memory := by
  cases program with
  | done => cases proceeded
  | load table key rest =>
      cases proceeded
      exact ⟨idle _, rfl⟩
  | crash => exact idle.elim
  | put => exact idle.elim
  | lock => exact idle.elim
  | unlock => exact idle.elim

/-- Where a program loads and stores on any of its branches. -/
def Confined (Loads Stores : Table → Key → Prop) : Program Table Key Val → Prop
  | .done => True
  | .crash => True
  | .load table key next => Loads table key ∧ ∀ value, Confined Loads Stores (next value)
  | .put table key _ next => Stores table key ∧ Confined Loads Stores next
  | .lock next => Confined Loads Stores next
  | .unlock next => Confined Loads Stores next

section Confined

variable {Loads Stores : Table → Key → Prop} {program : Program Table Key Val} {memory : Memory Table Key Val}
  {table : Table} {key : Key}

theorem Confined.reads (confined : Confined Loads Stores program) (read : Reads program memory table key) :
    Loads table key := by
  induction program generalizing memory with
  | done => exact read.elim
  | crash => exact read.elim
  | load other place next ih =>
      rcases read with ⟨rfl, rfl⟩ | later
      · exact confined.1
      · exact ih _ (confined.2 _) later
  | put other place value next ih => exact ih confined.2 read
  | lock next ih => exact ih confined read
  | unlock next ih => exact ih confined read

theorem Confined.writes (confined : Confined Loads Stores program) (written : Writes program memory table key) :
    Stores table key := by
  induction program generalizing memory with
  | done => exact written.elim
  | crash => exact written.elim
  | load other place next ih => exact ih _ (confined.2 _) written
  | put other place value next ih =>
      rcases written with ⟨rfl, rfl⟩ | later
      · exact confined.1
      · exact ih confined.2 later
  | lock next ih => exact ih confined written
  | unlock next ih => exact ih confined written

end Confined

/-! The mutex. -/

/-- Every way through the program takes and releases the mutex in turn. -/
def Bracketed : Bool → Program Table Key Val → Prop
  | held, .done => held = false
  | _, .crash => True
  | held, .load _ _ next => ∀ value, Bracketed held (next value)
  | held, .put _ _ _ next => Bracketed held next
  | held, .lock next => held = false ∧ Bracketed true next
  | held, .unlock next => held = true ∧ Bracketed false next

def Guarded (config : Config Table Key Val) : Prop :=
  ∀ side, Bracketed (decide (config.holder = some side)) (config.programs side)

theorem bracketed_proceed {side : Side} {holder taken : Option Side} {program next : Program Table Key Val}
    {memory after : Memory Table Key Val} (proceeded : proceed program memory = some (next, after))
    (held : holderAfter side holder program = some taken)
    (bracketed : Bracketed (decide (holder = some side)) program) :
    Bracketed (decide (taken = some side)) next ∧
      ∀ who, who ≠ side → decide (taken = some who) = decide (holder = some who) := by
  cases program with
  | done => cases proceeded
  | crash => cases proceeded
  | load table key rest =>
      cases proceeded
      cases held
      exact ⟨bracketed _, fun _ _ => rfl⟩
  | put table key value rest =>
      cases proceeded
      cases held
      exact ⟨bracketed, fun _ _ => rfl⟩
  | lock rest =>
      cases proceeded
      simp only [holderAfter] at held
      split at held
      · rename_i free
        cases held
        exact ⟨by simpa using bracketed.2, fun who other => by simp [free, Ne.symm other]⟩
      · cases held
  | unlock rest =>
      cases proceeded
      cases held
      have holding : holder = some side := by simpa using bracketed.1
      exact ⟨by simpa using bracketed.2, fun who other => by simp [holding, Ne.symm other]⟩

theorem advance_guarded {config next : Config Table Key Val} {side : Side}
    (advanced : advance config side = some next) (guarded : Guarded config) : Guarded next := by
  obtain ⟨program, memory, holder, proceeded, held, rfl⟩ := advance_cases advanced
  obtain ⟨mine, others⟩ := bracketed_proceed proceeded held (guarded side)
  intro who
  by_cases same : who = side
  · rw [same]
    simpa using mine
  · have theirs := guarded who
    rw [← others who same] at theirs
    simpa [same] using theirs

/-- With the other side standing still, this side comes to its end or its crash. -/
def Settles (config : Config Table Key Val) (side : Side) : Prop :=
  ∃ schedule reached, play schedule config = some reached ∧
    ((run (config.programs side) config.memory = some reached.memory ∧
        reached.programs = Function.update config.programs side .done ∧ reached.holder = none) ∨
      (run (config.programs side) config.memory = none ∧ reached.programs side = .crash))

theorem Settles.step {config : Config Table Key Val} {side : Side} {program : Program Table Key Val}
    {memory : Memory Table Key Val} {holder : Option Side}
    (proceeded : proceed (config.programs side) config.memory = some (program, memory))
    (held : holderAfter side config.holder (config.programs side) = some holder)
    (later : Settles ⟨Function.update config.programs side program, memory, holder⟩ side) :
    Settles config side := by
  obtain ⟨schedule, reached, played, ending⟩ := later
  simp only [Function.update_self, Function.update_idem, run_proceed proceeded] at ending
  refine ⟨side :: schedule, reached, ?_, ending⟩
  simp only [play, advance, proceeded, held, Option.bind_some, played]

theorem settles {config : Config Table Key Val} {side : Side} {held : Bool}
    (bracketed : Bracketed held (config.programs side))
    (holding : config.holder = if held then some side else none) : Settles config side := by
  generalize here : config.programs side = program at bracketed
  induction program generalizing config held with
  | done =>
      obtain rfl : held = false := bracketed
      refine ⟨[], config, rfl, Or.inl ⟨?_, ?_, holding⟩⟩
      · rw [here]
        rfl
      · rw [← here, Function.update_eq_self]
  | crash =>
      refine ⟨[], config, rfl, Or.inr ⟨?_, here⟩⟩
      rw [here]
      rfl
  | load table key next ih =>
      apply Settles.step
      · rw [here]
        rfl
      · rw [here]
        rfl
      · exact ih _ holding (Function.update_self ..) (bracketed _)
  | put table key value next ih =>
      apply Settles.step
      · rw [here]
        rfl
      · rw [here]
        rfl
      · exact ih holding (Function.update_self ..) bracketed
  | lock next ih =>
      obtain ⟨rfl, rest⟩ := bracketed
      have free : config.holder = none := holding
      apply Settles.step
      · rw [here]
        rfl
      · rw [here, free]
        rfl
      · exact ih rfl (Function.update_self ..) rest
  | unlock next ih =>
      obtain ⟨rfl, rest⟩ := bracketed
      apply Settles.step
      · rw [here]
        rfl
      · rw [here]
        rfl
      · exact ih rfl (Function.update_self ..) rest

/-! Every interleaving. -/

def Finished (config : Config Table Key Val) : Prop := ∀ side, config.programs side = .done

/-- However the two programs are interleaved, neither crashes, both can always
come to their ends, and a memory they end with is an allowed one. -/
structure Ends (Allowed : Memory Table Key Val → Prop) (config : Config Table Key Val) : Prop where
  safe : ∀ schedule reached, play schedule config = some reached → ∀ side, reached.programs side ≠ .crash
  live : ∀ schedule reached, play schedule config = some reached →
    ∃ rest last, play rest reached = some last ∧ Finished last
  allowed : ∀ schedule reached, play schedule config = some reached → Finished reached → Allowed reached.memory

theorem Ends.mono {Allowed Wider : Memory Table Key Val → Prop} {config : Config Table Key Val}
    (ends : Ends Allowed config) (wider : ∀ memory, Allowed memory → Wider memory) : Ends Wider config :=
  ⟨ends.safe, ends.live,
    fun schedule reached played finished => wider _ (ends.allowed schedule reached played finished)⟩

theorem Ends.play {Allowed : Memory Table Key Val → Prop} {config next : Config Table Key Val}
    (ends : Ends Allowed config) (early : List Side) (played : Interleaving.play early config = some next) :
    Ends Allowed next := by
  have whole : ∀ schedule, Interleaving.play (early ++ schedule) config = Interleaving.play schedule next := by
    intro schedule
    rw [play_append, played, Option.bind_some]
  refine ⟨fun schedule reached later => ?_, fun schedule reached later => ?_, fun schedule reached later => ?_⟩
  · exact ends.safe (early ++ schedule) reached ((whole schedule).trans later)
  · exact ends.live (early ++ schedule) reached ((whole schedule).trans later)
  · exact ends.allowed (early ++ schedule) reached ((whole schedule).trans later)

def pair (one other : Program Table Key Val) : Side → Program Table Key Val
  | .first => one
  | .second => other

section Pair

variable {Allowed : Memory Table Key Val → Prop} {one other : Program Table Key Val}
  {memory : Memory Table Key Val} {holder : Option Side}

omit [DecidableEq Table] [DecidableEq Key] in
@[simp] theorem update_pair_first (next : Program Table Key Val) :
    Function.update (pair one other) .first next = pair next other := by
  funext side
  cases side <;> rfl

omit [DecidableEq Table] [DecidableEq Key] in
@[simp] theorem update_pair_second (next : Program Table Key Val) :
    Function.update (pair one other) .second next = pair one next := by
  funext side
  cases side <;> rfl

theorem Ends.load {table : Table} {key : Key} {next : Option (Val table) → Program Table Key Val}
    (ends : Ends Allowed ⟨pair (.load table key next) other, memory, holder⟩) :
    Ends Allowed ⟨pair (next (memory table key)) other, memory, holder⟩ := by
  apply ends.play [.first]
  simp [Interleaving.play, advance, proceed, holderAfter, pair]

theorem Ends.put {table : Table} {key : Key} {value : Option (Val table)} {next : Program Table Key Val}
    (ends : Ends Allowed ⟨pair (.put table key value next) other, memory, holder⟩) :
    Ends Allowed ⟨pair next other, write memory table key value, holder⟩ := by
  apply ends.play [.first]
  simp [Interleaving.play, advance, proceed, holderAfter, pair]

theorem Ends.run_second (ends : Ends Allowed ⟨pair one other, memory, none⟩) (bracketed : Bracketed false other) :
    ∃ after, run other memory = some after ∧ Ends Allowed ⟨pair one .done, after, none⟩ := by
  have settled : Settles (⟨pair one other, memory, none⟩ : Config Table Key Val) .second :=
    settles bracketed rfl
  obtain ⟨schedule, ⟨programs, after, holder⟩, played, ending⟩ := settled
  rcases ending with ⟨ran, done, free⟩ | ⟨-, crashed⟩
  · obtain rfl : programs = pair one .done := done.trans (update_pair_second .done)
    obtain rfl : holder = none := free
    exact ⟨after, ran, ends.play schedule played⟩
  · exact absurd crashed (ends.safe schedule _ played .second)

theorem Ends.run_first (ends : Ends Allowed ⟨pair one .done, memory, none⟩) (bracketed : Bracketed false one) :
    ∃ after, run one memory = some after ∧ Allowed after := by
  have settled : Settles (⟨pair one .done, memory, none⟩ : Config Table Key Val) .first :=
    settles bracketed rfl
  obtain ⟨schedule, reached, played, ending⟩ := settled
  rcases ending with ⟨ran, done, -⟩ | ⟨-, crashed⟩
  · refine ⟨reached.memory, ran, ends.allowed schedule reached played fun side => ?_⟩
    rw [done, update_pair_first]
    cases side <;> rfl
  · exact absurd crashed (ends.safe schedule reached played .first)

end Pair

structure Serial (final : Memory Table Key Val) (config : Config Table Key Val) : Prop where
  guarded : Guarded config
  separate : Idle (config.programs .second) ∨
    Independent (config.programs .first) (config.programs .second) config.memory
  result : serial (config.programs .first) (config.programs .second) config.memory = some final

theorem Serial.advance {final : Memory Table Key Val} {config next : Config Table Key Val} {side : Side}
    (before : Serial final config) (advanced : Interleaving.advance config side = some next) :
    Serial final next := by
  have guarded : Guarded next := advance_guarded advanced before.guarded
  obtain ⟨program, memory, holder, proceeded, held, rfl⟩ := advance_cases advanced
  cases side with
  | first =>
      refine ⟨guarded, before.separate.imp id fun independent => independent.proceed proceeded, ?_⟩
      exact (congrArg (Option.bind · _) (run_proceed proceeded)).trans before.result
  | second =>
      have result := before.result
      rcases before.separate with idle | independent
      · obtain ⟨still, rfl⟩ := idle.proceed proceeded
        refine ⟨guarded, Or.inl still, ?_⟩
        change serial (config.programs .first) program config.memory = some final
        rw [serial, funext idle.run] at result
        rwa [serial, funext still.run]
      · refine ⟨guarded, Or.inr (independent.symm.proceed proceeded).symm, ?_⟩
        exact (independent.serial_proceed proceeded).trans result

theorem Serial.safe {final : Memory Table Key Val} {config : Config Table Key Val}
    (invariant : Serial final config) (side : Side) : config.programs side ≠ .crash := by
  intro crashed
  obtain ⟨middle, ran, ranOn⟩ := Option.bind_eq_some_iff.mp invariant.result
  cases side with
  | first => simp [crashed, run] at ran
  | second => simp [crashed, run] at ranOn

omit [DecidableEq Table] [DecidableEq Key] in
theorem finished_updates (programs : Side → Program Table Key Val) (side other : Side) (different : other ≠ side) :
    Function.update (Function.update programs side .done) other .done = fun _ => .done := by
  funext who
  cases who <;> cases side <;> cases other <;> simp_all

/-- The side with the mutex goes first; then nobody has it. -/
theorem finish_both {config : Config Table Key Val} {side other : Side} {middle last : Memory Table Key Val}
    (different : other ≠ side) (guarded : Guarded config) (waits : config.holder ≠ some other)
    (ran : run (config.programs side) config.memory = some middle)
    (ranOn : run (config.programs other) middle = some last) :
    ∃ schedule reached, play schedule config = some reached ∧ Finished reached := by
  have holding : config.holder = if decide (config.holder = some side) then some side else none := by
    cases holder : config.holder with
    | none => simp
    | some who => cases who <;> cases side <;> cases other <;> simp_all
  obtain ⟨schedule, between, played, ending⟩ := settles (guarded side) holding
  rcases ending with ⟨ranToo, programs, free⟩ | ⟨crashed, -⟩
  · have restProgram : between.programs other = config.programs other := by
      rw [programs, Function.update_of_ne different]
    have bracketed : Bracketed false (between.programs other) := by
      have theirs := guarded other
      rwa [decide_eq_false waits, ← restProgram] at theirs
    obtain ⟨later, reached, playedOn, ending⟩ := settles bracketed free
    rcases ending with ⟨-, done, -⟩ | ⟨crashed, -⟩
    · refine ⟨schedule ++ later, reached, ?_, fun who => ?_⟩
      · rw [play_append, played, Option.bind_some, playedOn]
      · rw [done, programs, finished_updates config.programs side other different]
    · rw [restProgram, Option.some.inj (ranToo.symm.trans ran), ranOn] at crashed
      cases crashed
  · rw [ran] at crashed
    cases crashed

theorem Serial.finish {final : Memory Table Key Val} {config : Config Table Key Val}
    (invariant : Serial final config) :
    ∃ schedule reached, play schedule config = some reached ∧ Finished reached := by
  obtain ⟨middle, ran, ranOn⟩ := Option.bind_eq_some_iff.mp invariant.result
  by_cases second : config.holder = some .second
  · have waits : config.holder ≠ some .first := by simp [second]
    rcases invariant.separate with idle | independent
    · exact finish_both (by decide) invariant.guarded waits (idle.run config.memory) ran
    · obtain ⟨between, again, ranSecond, ranFirst⟩ := independent.serial_comm ran ranOn
      exact finish_both (by decide) invariant.guarded waits ranSecond ranFirst
  · exact finish_both (by decide) invariant.guarded second ran ranOn

/-- Independent programs end as if one had run after the other. -/
theorem Serial.ends {final : Memory Table Key Val} {config : Config Table Key Val}
    (initial : Serial final config) : Ends (· = final) config := by
  have along : ∀ schedule reached, play schedule config = some reached → Serial final reached :=
    fun schedule reached played => play_invariant (Serial final)
      (fun before side after advanced invariant => invariant.advance advanced) played initial
  constructor
  · exact fun schedule reached played => (along schedule reached played).safe
  · exact fun schedule reached played => (along schedule reached played).finish
  · intro schedule reached played finished
    have result := (along schedule reached played).result
    rw [finished .first, finished .second] at result
    exact Option.some.inj result

end Carrier.Interleaving
