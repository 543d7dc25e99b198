import Carrier.GoRuntime
import Carrier.Address
import Carrier.KeyedLog
import Carrier.TransitionSystem
import Mathlib.Logic.Function.Basic

/-! The components of `network/component_list.go` and the part of `network/builder.go`
that fills the list. A map by dynamic type and a slice are kept beside each other. The
type of a nil component is the nil type, whose name cannot be asked for. The slice is
sorted once, when the network is built. -/
namespace Carrier.Components

open GoRuntime KeyedLog TransitionSystem Address

variable {Component Ty : Type} [DecidableEq Ty] (typeOf : Component → Option Ty)
  (typeName : Ty → String)

structure ComponentInfo (Component : Type) where
  priority : Int
  component : Component
  deriving DecidableEq, Repr

structure ComponentList (Component Ty : Type) where
  keys : Option Ty → Option (ComponentInfo Component)
  values : List (ComponentInfo Component)

namespace ComponentList

def newComponentList : ComponentList Component Ty := { keys := fun _ => none, values := [] }

def sortByPriority (list : ComponentList Component Ty) : ComponentList Component Ty :=
  { list with values := list.values.insertionSort fun left right => left.priority ≤ right.priority }

def putInfo (list : ComponentList Component Ty) (info : ComponentInfo Component) : Bool × ComponentList Component Ty :=
  let ty := typeOf info.component
  match list.keys ty with
  | some _ => (false, list)
  | none => (true, { keys := Function.update list.keys ty (some info), values := list.values ++ [info] })

def put (list : ComponentList Component Ty) (priority : Int) (component : Component) :
    Bool × ComponentList Component Ty :=
  list.putInfo typeOf { priority := priority, component := component }

def delete (list : ComponentList Component Ty) (component : Component) : Bool × ComponentList Component Ty :=
  let ty := typeOf component
  (true, { keys := Function.update list.keys ty none,
           values := list.values.eraseP fun info => typeOf info.component = ty })

def getInfo (list : ComponentList Component Ty) (ty : Option Ty) : Option (ComponentInfo Component) :=
  list.keys ty

def get (list : ComponentList Component Ty) (ty : Option Ty) : Option Component :=
  (list.getInfo ty).map ComponentInfo.component

def each (list : ComponentList Component Ty) : List Component := list.values.map ComponentInfo.component

end ComponentList

/-- The key pair stands for its public key. -/
structure Builder (Component Ty : Type) where
  keys : Option Bytes
  address : String
  listenAddr : String
  components : Option (ComponentList Component Ty)
  componentCount : Int

structure Network (Component Ty : Type) where
  address : String
  listenAddr : String
  components : ComponentList Component Ty

def errStrDuplicateComponent (name : String) : String :=
  "builder: Component " ++ name ++ " is already registered"
def errStrNoAddress : String := "builder: network requires public server IP for peers to connect to"
def errStrNoKeyPair : String :=
  "builder: cryptography keys not provided to Network; cannot create node ID"

inductive BuildError where
  | text (message : String)
  | notUnified (address : String)
  deriving DecidableEq, Repr

namespace Builder

/-- The error is `none` where Go returns nil. -/
def addComponentWithPriority (builder : Builder Component Ty) (priority : Int) (component : Component) :
    Outcome (Option String × Builder Component Ty) :=
  let placed := (builder.components.getD .newComponentList).put typeOf priority component
  let builder := { builder with components := some placed.2 }
  if placed.1 then .done (none, builder)
  else match typeOf component with
    | none => .panic
    | some ty => .done (some (errStrDuplicateComponent (typeName ty)), builder)

def deleteComponent (builder : Builder Component Ty) (component : Component) :
    Outcome (Bool × Builder Component Ty) :=
  match builder.components with
  | none => .panic
  | some list =>
      let deleted := list.delete typeOf component
      .done (deleted.1, { builder with components := some deleted.2 })

def addComponent (builder : Builder Component Ty) (component : Component) :
    Outcome (Option String × Builder Component Ty) :=
  (builder.addComponentWithPriority typeOf typeName builder.componentCount component).map
    fun (error, builder) =>
      (error, if error = none then { builder with componentCount := builder.componentCount + 1 } else builder)

/-- The list is sorted before the addresses are looked at. -/
def build (resolver : Resolver) (builder : Builder Component Ty) :
    Except BuildError (Network Component Ty) × Builder Component Ty :=
  if builder.keys = none then (.error (.text errStrNoKeyPair), builder)
  else if builder.address.length = 0 then (.error (.text errStrNoAddress), builder)
  else
    let list := match builder.components with
      | none => .newComponentList
      | some list => list.sortByPriority
    let builder := { builder with components := some list }
    match toUnifiedAddress resolver builder.address with
    | none => (.error (.notUnified builder.address), builder)
    | some address =>
        match toUnifiedAddress resolver builder.listenAddr with
        | none => (.error (.notUnified builder.listenAddr), builder)
        | some listenAddr =>
            (.ok { address := address, listenAddr := listenAddr, components := list }, builder)

end Builder

/-! Calls on a builder, with a log of what each of them did. -/

inductive Call (Component : Type) where
  | addComponent (component : Component)
  | addComponentWithPriority (priority : Int) (component : Component)
  | deleteComponent (component : Component)
  deriving DecidableEq, Repr

def Call.component : Call Component → Component
  | .addComponent component => component
  | .addComponentWithPriority _ component => component
  | .deleteComponent component => component

def Call.adds : Call Component → Bool
  | .deleteComponent _ => false
  | _ => true

abbrev Log (Component Ty : Type) := List (Event (ComponentInfo Component) (Option Ty))

structure Record (Component Ty : Type) where
  builder : Builder Component Ty
  log : Log Component Ty

def addEvent (priority : Int) (component : Component) : Option String → Event (ComponentInfo Component) (Option Ty)
  | none => .added { priority := priority, component := component }
  | some _ => .refused

def Record.apply (record : Record Component Ty) : Call Component → Outcome (Record Component Ty)
  | .addComponent component =>
      (record.builder.addComponent typeOf typeName component).map fun (error, builder) =>
        ⟨builder, record.log ++ [addEvent record.builder.componentCount component error]⟩
  | .addComponentWithPriority priority component =>
      (record.builder.addComponentWithPriority typeOf typeName priority component).map fun (error, builder) =>
        ⟨builder, record.log ++ [addEvent priority component error]⟩
  | .deleteComponent component =>
      (record.builder.deleteComponent typeOf component).map fun (_, builder) =>
        ⟨builder, record.log ++ [.removed (typeOf component)]⟩

def Applies (record : Record Component Ty) (call : Call Component) (next : Record Component Ty) : Prop :=
  record.apply typeOf typeName call = .done next

/-! The list against the survivors of the log. -/

def infoType (info : ComponentInfo Component) : Option Ty := typeOf info.component

/-- The slice holds the values of the entries in order, the map finds each of them by
its type, and no type occurs twice. -/
structure Represents (list : ComponentList Component Ty) (entries : List (Entry (ComponentInfo Component))) :
    Prop where
  values : list.values = entries.map Entry.value
  keys : ∀ ty info, list.keys ty = some info ↔
    ∃ entry ∈ entries, entry.value = info ∧ infoType typeOf info = ty
  apart : entries.Pairwise fun left right => infoType typeOf left.value ≠ infoType typeOf right.value

section Operations

variable {typeOf} {typeName} {list : ComponentList Component Ty} {entries : List (Entry (ComponentInfo Component))}

omit [DecidableEq Ty] in
theorem newComponentList_represents :
    Represents typeOf (ComponentList.newComponentList : ComponentList Component Ty) [] where
  values := rfl
  keys := by simp [ComponentList.newComponentList]
  apart := List.Pairwise.nil

omit [DecidableEq Ty] in
theorem Represents.absent (rep : Represents typeOf list entries) {ty : Option Ty} (missing : list.keys ty = none) :
    ∀ entry ∈ entries, infoType typeOf entry.value ≠ ty := by
  intro entry member same
  have found := (rep.keys ty entry.value).mpr ⟨entry, member, rfl, same⟩
  simp [missing] at found

theorem putInfo_represents (rep : Represents typeOf list entries) (info : ComponentInfo Component)
    (missing : list.keys (typeOf info.component) = none) (number : Nat) :
    Represents typeOf
      { keys := Function.update list.keys (typeOf info.component) (some info),
        values := list.values ++ [info] }
      (entries ++ [⟨number, info⟩]) where
  values := by simp [rep.values]
  keys := by
    intro ty other
    have absent := rep.absent missing
    by_cases same : ty = typeOf info.component
    · subst same
      simp only [Function.update_self, Option.some.injEq]
      constructor
      · rintro rfl
        exact ⟨⟨number, info⟩, by simp, rfl, rfl⟩
      · rintro ⟨entry, member, rfl, hit⟩
        rcases List.mem_append.mp member with old | new
        · exact absurd hit (absent entry old)
        · rw [List.mem_singleton.mp new]
    · simp only [Function.update_of_ne same, rep.keys, List.mem_append, List.mem_singleton]
      constructor
      · rintro ⟨entry, member, found⟩
        exact ⟨entry, Or.inl member, found⟩
      · rintro ⟨entry, old | rfl, rfl, hit⟩
        · exact ⟨entry, old, rfl, hit⟩
        · exact absurd hit.symm same
  apart := by
    refine List.pairwise_append.mpr ⟨rep.apart, List.pairwise_singleton _ _, ?_⟩
    intro entry old other new
    rw [List.mem_singleton.mp new]
    exact rep.absent missing entry old

theorem delete_represents (rep : Represents typeOf list entries) (component : Component) :
    Represents typeOf (list.delete typeOf component).2
      (entries.filter fun entry => infoType typeOf entry.value ≠ typeOf component) where
  values := by
    have apart : (entries.map Entry.value).Pairwise fun left right =>
        infoType typeOf left ≠ infoType typeOf right := List.pairwise_map.mpr rep.apart
    have erased := eraseP_key (infoType typeOf) (typeOf component) _ apart
    simp only [ComponentList.delete, rep.values]
    exact erased.trans (List.filter_map ..)
  keys := by
    intro ty info
    simp only [ComponentList.delete, List.mem_filter, decide_eq_true_eq]
    by_cases same : ty = typeOf component
    · subst same
      simp only [Function.update_self, reduceCtorEq, false_iff, not_exists, not_and]
      rintro entry ⟨_, other⟩ rfl hit
      exact other hit
    · simp only [Function.update_of_ne same, rep.keys]
      constructor
      · rintro ⟨entry, member, rfl, hit⟩
        exact ⟨entry, ⟨member, fun removed => same (hit.symm.trans removed)⟩, rfl, hit⟩
      · rintro ⟨entry, ⟨member, _⟩, found⟩
        exact ⟨entry, member, found⟩
  apart := rep.apart.filter _

end Operations

def Settled (record : Record Component Ty) : Prop :=
  Represents typeOf (record.builder.components.getD .newComponentList)
    (survivors (infoType typeOf) record.log)

def Describes : Call Component → Event (ComponentInfo Component) (Option Ty) → Prop
  | .addComponent component, event => event = .refused ∨ ∃ priority, event = .added ⟨priority, component⟩
  | .addComponentWithPriority priority component, event =>
      event = .refused ∨ event = .added ⟨priority, component⟩
  | .deleteComponent component, event => event = .removed (typeOf component)

section Calls

variable {typeOf} {typeName} {builder next : Builder Component Ty} {log : Log Component Ty}

theorem addComponentWithPriority_settled {priority : Int} {component : Component} {error : Option String}
    (settled : Settled typeOf ⟨builder, log⟩)
    (added : builder.addComponentWithPriority typeOf typeName priority component = .done (error, next)) :
    Settled typeOf ⟨next, log ++ [addEvent priority component error]⟩ := by
  simp only [Settled, survivors_snoc]
  simp only [Builder.addComponentWithPriority, ComponentList.put, ComponentList.putInfo] at added
  cases found : (builder.components.getD .newComponentList).keys (typeOf component) with
  | some info =>
      simp only [found, Bool.false_eq_true, ↓reduceIte] at added
      split at added
      · simp at added
      · simp only [Outcome.done.injEq, Prod.mk.injEq] at added
        obtain ⟨rfl, rfl⟩ := added
        exact settled
  | none =>
      simp only [found, ↓reduceIte, Outcome.done.injEq, Prod.mk.injEq] at added
      obtain ⟨rfl, rfl⟩ := added
      exact putInfo_represents settled ⟨priority, component⟩ found log.length

theorem addComponent_settled {component : Component} {error : Option String}
    (settled : Settled typeOf ⟨builder, log⟩)
    (added : builder.addComponent typeOf typeName component = .done (error, next)) :
    Settled typeOf ⟨next, log ++ [addEvent builder.componentCount component error]⟩ := by
  obtain ⟨⟨result, middle⟩, placed, counted⟩ := Outcome.map_eq_done.mp added
  cases counted
  have kept := addComponentWithPriority_settled settled placed
  -- The counter is not part of the list.
  split
  · exact kept
  · exact kept

theorem deleteComponent_settled {component : Component} {reported : Bool}
    (settled : Settled typeOf ⟨builder, log⟩)
    (deleted : builder.deleteComponent typeOf component = .done (reported, next)) :
    Settled typeOf ⟨next, log ++ [.removed (typeOf component)]⟩ := by
  simp only [Settled, survivors_snoc]
  cases components : builder.components with
  | none => simp [Builder.deleteComponent, components] at deleted
  | some list =>
      simp only [Builder.deleteComponent, components, Outcome.done.injEq, Prod.mk.injEq] at deleted
      obtain ⟨-, rfl⟩ := deleted
      simp only [Settled, components, Option.getD_some] at settled
      exact delete_represents settled component

theorem applies_settled {record after : Record Component Ty} {call : Call Component}
    (applied : Applies typeOf typeName record call after) (settled : Settled typeOf record) :
    Settled typeOf after := by
  cases call with
  | addComponent component =>
      obtain ⟨⟨error, builder⟩, added, rfl⟩ := Outcome.map_eq_done.mp applied
      exact addComponent_settled settled added
  | addComponentWithPriority priority component =>
      obtain ⟨⟨error, builder⟩, added, rfl⟩ := Outcome.map_eq_done.mp applied
      exact addComponentWithPriority_settled settled added
  | deleteComponent component =>
      obtain ⟨⟨reported, builder⟩, deleted, rfl⟩ := Outcome.map_eq_done.mp applied
      exact deleteComponent_settled settled deleted

theorem applies_logged {record after : Record Component Ty} {call : Call Component}
    (applied : Applies typeOf typeName record call after) :
    ∃ event, after.log = record.log ++ [event] ∧ Describes typeOf call event := by
  cases call with
  | addComponent component =>
      obtain ⟨⟨error, builder⟩, _, rfl⟩ := Outcome.map_eq_done.mp applied
      refine ⟨_, rfl, ?_⟩
      cases error with
      | none => exact Or.inr ⟨_, rfl⟩
      | some text => exact Or.inl rfl
  | addComponentWithPriority priority component =>
      obtain ⟨⟨error, builder⟩, _, rfl⟩ := Outcome.map_eq_done.mp applied
      refine ⟨_, rfl, ?_⟩
      cases error with
      | none => exact Or.inr rfl
      | some text => exact Or.inl rfl
  | deleteComponent component =>
      obtain ⟨⟨reported, builder⟩, _, rfl⟩ := Outcome.map_eq_done.mp applied
      exact ⟨_, rfl, rfl⟩

theorem run_logged {start record : Record Component Ty} {calls : List (Call Component)}
    (run : Run (Applies typeOf typeName) start calls record) :
    ∃ events, record.log = start.log ++ events ∧ List.Forall₂ (Describes typeOf) calls events := by
  induction run with
  | nil record => exact ⟨[], by simp, List.Forall₂.nil⟩
  | cons step _ ih =>
      obtain ⟨event, logged, describes⟩ := applies_logged step
      obtain ⟨events, later, described⟩ := ih
      exact ⟨event :: events, by simp [later, logged], List.Forall₂.cons describes described⟩

/-! No call panics once an add has made the list, unless a nil component is refused. -/

theorem applies_total {record : Record Component Ty} {call : Call Component}
    (begun : record.builder.components ≠ none ∨ call.adds = true)
    (named : call.adds = true → typeOf call.component ≠ none) :
    ∃ after, Applies typeOf typeName record call after ∧ after.builder.components ≠ none := by
  have adding : ∀ priority component, typeOf component ≠ none → ∃ error next,
      record.builder.addComponentWithPriority typeOf typeName priority component = .done (error, next) ∧
        next.components ≠ none := by
    intro priority component known
    obtain ⟨ty, typed⟩ := Option.ne_none_iff_exists'.mp known
    simp only [Builder.addComponentWithPriority, typed]
    split
    · exact ⟨_, _, rfl, by simp⟩
    · exact ⟨_, _, rfl, by simp⟩
  cases call with
  | addComponent component =>
      obtain ⟨error, next, added, made⟩ := adding record.builder.componentCount component (named rfl)
      refine ⟨_, by rw [Applies, Record.apply, Builder.addComponent, added]; rfl, ?_⟩
      dsimp only
      split
      · exact made
      · exact made
  | addComponentWithPriority priority component =>
      obtain ⟨error, next, added, made⟩ := adding priority component (named rfl)
      exact ⟨_, by rw [Applies, Record.apply, added]; rfl, made⟩
  | deleteComponent component =>
      rcases begun with made | adds
      · obtain ⟨list, components⟩ := Option.ne_none_iff_exists'.mp made
        refine ⟨_, by rw [Applies, Record.apply, Builder.deleteComponent, components]; rfl, ?_⟩
        simp
      · simp [Call.adds] at adds

theorem run_total {record : Record Component Ty} {calls : List (Call Component)}
    (begun : record.builder.components ≠ none ∨ ∀ call ∈ calls.head?, call.adds = true)
    (named : ∀ call ∈ calls, call.adds = true → typeOf call.component ≠ none) :
    ∃ after, Run (Applies typeOf typeName) record calls after := by
  induction calls generalizing record with
  | nil => exact ⟨record, .nil record⟩
  | cons call rest ih =>
      have first : record.builder.components ≠ none ∨ call.adds = true :=
        begun.imp_right fun adds => adds call rfl
      obtain ⟨middle, applied, made⟩ := applies_total first (named call List.mem_cons_self)
      obtain ⟨after, run⟩ := ih (Or.inl made) fun other member => named other (List.mem_cons_of_mem call member)
      exact ⟨after, .cons applied run⟩

end Calls

/-! The network. -/

omit [DecidableEq Ty] in
theorem build_ok {resolver : Resolver} {builder : Builder Component Ty} {network : Network Component Ty}
    (built : (builder.build resolver).1 = .ok network) :
    network.components = (builder.components.getD .newComponentList).sortByPriority := by
  unfold Builder.build at built
  split at built
  · simp at built
  · split at built
    · simp at built
    · dsimp only at built
      split at built
      · simp at built
      · split at built
        · simp at built
        · cases built
          cases builder.components with
          | none => rfl
          | some list => rfl

/-- The network's components: `Each` visits the survivors of the log ordered by
priority and then by addition, one a type, and `Get` finds exactly these. -/
structure Installed (list : ComponentList Component Ty) (log : Log Component Ty)
    (entries : List (Entry (ComponentInfo Component))) : Prop where
  each : list.each = entries.map fun entry => entry.value.component
  survive : ∀ entry, entry ∈ entries ↔ Survives (infoType typeOf) log entry
  ordered : entries.Pairwise (Before ComponentInfo.priority)
  apart : entries.Pairwise fun left right => infoType typeOf left.value ≠ infoType typeOf right.value
  get : ∀ ty component, list.get ty = some component ↔
    ∃ entry ∈ entries, entry.value.component = component ∧ typeOf component = ty

theorem sorted_installed {list : ComponentList Component Ty} {log : Log Component Ty}
    (rep : Represents typeOf list (survivors (infoType typeOf) log)) :
    Installed typeOf list.sortByPriority log
      ((survivors (infoType typeOf) log).insertionSort fun left right =>
        left.value.priority ≤ right.value.priority) where
  each := by
    have sorted := List.map_insertionSort (fun left right : Entry (ComponentInfo Component) =>
        left.value.priority ≤ right.value.priority)
      (fun left right : ComponentInfo Component => left.priority ≤ right.priority) Entry.value
      (survivors (infoType typeOf) log) (fun _ _ _ _ => Iff.rfl)
    rw [ComponentList.each, ComponentList.sortByPriority, rep.values, ← sorted, List.map_map]
    rfl
  survive := by
    intro entry
    rw [List.mem_insertionSort, mem_survivors_iff]
  ordered := insertionSort_before _ (survivors_increasing log)
  apart := ((List.perm_insertionSort _ _).pairwise_iff Ne.symm).mpr rep.apart
  get := by
    intro ty component
    simp only [ComponentList.get, ComponentList.getInfo, ComponentList.sortByPriority, Option.map_eq_some_iff, rep.keys,
      List.mem_insertionSort]
    constructor
    · rintro ⟨info, ⟨entry, member, rfl, hit⟩, rfl⟩
      exact ⟨entry, member, rfl, hit⟩
    · rintro ⟨entry, member, rfl, hit⟩
      exact ⟨entry.value, ⟨entry, member, rfl, hit⟩, rfl⟩

/-- Over every sequence of calls on a new builder: the network built after it has the
components that were added and not deleted since. A sequence that begins with an add
and adds no nil component runs to its end. -/
theorem built_components (resolver : Resolver) {start : Record Component Ty}
    (fresh : start.builder.components = none) (unlogged : start.log = []) :
    (∀ calls record network, Run (Applies typeOf typeName) start calls record →
      (record.builder.build resolver).1 = .ok network →
      List.Forall₂ (Describes typeOf) calls record.log ∧
        ∃ entries, Installed typeOf network.components record.log entries) ∧
    ∀ calls : List (Call Component), (∀ call ∈ calls.head?, call.adds = true) →
      (∀ call ∈ calls, call.adds = true → typeOf call.component ≠ none) →
      ∃ record, Run (Applies typeOf typeName) start calls record := by
  constructor
  · intro calls record network run built
    have initial : Settled typeOf start := by
      rw [Settled, fresh, unlogged]
      exact newComponentList_represents
    have settled : Settled typeOf record :=
      run.invariant (Settled typeOf) (fun _ _ _ => applies_settled) initial
    obtain ⟨events, logged, described⟩ := run_logged run
    rw [unlogged, List.nil_append] at logged
    rw [build_ok built]
    exact ⟨logged ▸ described, _, sorted_installed typeOf settled⟩
  · intro calls adds named
    exact run_total (Or.inr adds) named

/-! Components given by their type and a value, and a resolver that takes every address. -/

def numberedType (component : Nat × Nat) : Option Nat := some component.1

def plainResolver : Resolver where
  trimSpace address := address
  urlParse address := some ("tcp", address)
  splitHostPort host := some (host, "1")
  joinHostPort host port := host ++ ":" ++ port
  parseUint16 _ := some 1
  parseIP _ := true
  lookupHost _ := none

def plainBuilder : Builder (Nat × Nat) Nat :=
  { keys := some [1], address := "a", listenAddr := "a", components := none, componentCount := 0 }

/-- A second component of a type is refused, and one that was deleted can be added
again with another priority. -/
theorem built_components_plain :
    ∃ record network, Run (Applies numberedType toString) ⟨plainBuilder, []⟩
        [.addComponentWithPriority 5 (0, 0), .addComponent (1, 0), .addComponent (1, 1),
          .deleteComponent (0, 9), .addComponentWithPriority 0 (0, 1)] record ∧
      (record.builder.build plainResolver).1 = .ok network ∧
      network.components.each = [(1, 0), (0, 1)] ∧
      ∃ entries, Installed numberedType network.components record.log entries := by
  obtain ⟨record, network, run, built, visited⟩ : ∃ record network,
      Run (Applies numberedType toString) ⟨plainBuilder, []⟩
        [.addComponentWithPriority 5 (0, 0), .addComponent (1, 0), .addComponent (1, 1),
          .deleteComponent (0, 9), .addComponentWithPriority 0 (0, 1)] record ∧
      (record.builder.build plainResolver).1 = .ok network ∧
      network.components.each = [(1, 0), (0, 1)] :=
    ⟨_, _, .cons rfl (.cons rfl (.cons rfl (.cons rfl (.cons rfl (.nil _))))), rfl, rfl⟩
  have installed := (built_components numberedType toString plainResolver rfl rfl).1 _ record network run built
  exact ⟨record, network, run, built, visited, installed.2⟩

end Carrier.Components
