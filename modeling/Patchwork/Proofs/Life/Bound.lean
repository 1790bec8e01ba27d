import Patchwork.Proofs.Life.Walk
import Patchwork.Proofs.Reachable

/-! # Walks while anything happens

Links may be set by hand, pieces divided behind the back of their arenas, slots pushed: a walk
goes by what it finds, and may meet a piece as often as the links lead to it. What bounds it is
the size of its arena, which never goes down. So a walk has never given out more slots than there
are, it reports an endless chain only when it has given out as many, and once nothing is pushed
any more it comes to its end whatever the links do.
-/
namespace Patchwork

def Pull.isEnd : Pull Item → Bool
  | .item _ => false
  | .stop | .fault _ => true

theorem Pull.isEnd_of_slot? {answer : Pull Item} (gives : answer.slot?.isSome) :
    answer.isEnd = false := by
  cases answer with
  | item => rfl
  | stop | fault => cases gives

theorem Pull.length_slots {answers : List (Pull Item)}
    (items : ∀ answer ∈ answers, answer.slot?.isSome) :
    (Pull.slots answers).length = answers.length :=
  List.filterMap_length_eq_length.mpr items

theorem Cursor.length_answers_pull {store : Store} (count : Nat) {cursor : Cursor}
    (going : ∀ answer ∈ (cursor.pull store count).1.answers, answer.isEnd = false) :
    (cursor.pull store count).1.answers.length = count := by
  induction count generalizing cursor with
  | zero => rfl
  | succ count ih =>
    rw [pull] at going ⊢
    rcases given : cursor.next store with ⟨item | _ | reason, later⟩ <;> rw [given] at going
    · simpa using ih (List.forall_mem_cons.mp going).2
    · exact Bool.noConfusion (going .stop (List.mem_singleton_self _))
    · exact Bool.noConfusion (going (.fault reason) (List.mem_singleton_self _))

namespace Walk

variable {store after : Store} {walk : Walk} {answers : List (Pull Item)}

theorem next_cases (walk : Walk) (store : Store) :
    (∃ answer, walk.next store = (answer, walk.close) ∧ ∀ step, answer ≠ .item step) ∨
      ∃ index piece, walk.pending store = some index ∧
        store.slot? walk.arena index = some piece ∧
        walk.yielded ≠ (store.arena walk.arena).size ∧
        walk.next store = (.item (index.toNat, piece),
          { walk with yielded := walk.yielded + 1, place := .after piece }) := by
  cases pending : walk.pending store with
  | none => exact .inl ⟨_, next_of_none pending, nofun⟩
  | some index =>
    cases found : store.slot? walk.arena index with
    | none => exact .inl ⟨_, next_of_error pending (Store.get_of_none found), nofun⟩
    | some piece =>
      have held := Store.get_eq_ok_iff.mpr found
      by_cases full : walk.yielded = (store.arena walk.arena).size
      · exact .inl ⟨_, next_of_full pending held full, nofun⟩
      · exact .inr ⟨index, piece, rfl, found, full, next_of_room pending held full⟩

/-- An endless chain is reported of a slot that is there, when as many have been given out. -/
theorem next_eq_endless_iff {reason : Int} :
    (walk.next store).1 = .fault (.endlessChain reason) ↔ reason = walk.head ∧
      walk.yielded = (store.arena walk.arena).size ∧
      ∃ index, walk.pending store = some index ∧ (store.slot? walk.arena index).isSome := by
  cases pending : walk.pending store with
  | none => simp [next_of_none pending]
  | some index =>
    cases found : store.slot? walk.arena index with
    | none => simp [next_of_error pending (Store.get_of_none found), found]
    | some piece =>
      have held := Store.get_eq_ok_iff.mpr found
      by_cases full : walk.yielded = (store.arena walk.arena).size
      · simp only [next_of_full pending held full, Pull.fault.injEq, Fault.endlessChain.injEq]
        exact ⟨fun same => ⟨same.symm, full, index, rfl, by simp [found]⟩, fun same => same.1.symm⟩
      · simp [next_of_room pending held full, full]

/-- A walk with what it has answered. It has given out one slot for each answer and no more than
there are, or it has ended and said nothing since. -/
inductive Runs (store : Store) (walk : Walk) (answers : List (Pull Item)) : Prop
  | going (items : ∀ answer ∈ answers, answer.slot?.isSome) (count : walk.yielded = answers.length)
      (room : answers.length ≤ (store.arena walk.arena).size)
      (latest : match walk.place with
        | .start => answers = []
        | .after piece => ∃ slot, (Pull.slots answers).getLast? = some slot ∧
            store.slot? walk.arena slot = some piece
        | .closed => False)
  | ended {given : List (Pull Item)} {last : Pull Item} {stops : Nat}
      (closed : walk.place = .closed)
      (answered : answers = given ++ last :: List.replicate stops .stop)
      (items : ∀ answer ∈ given, answer.slot?.isSome) (ends : last.isEnd)
      (room : given.length ≤ (store.arena walk.arena).size)

namespace Runs

theorem start (store : Store) (arena : Nat) (head : Int) : Runs store { arena, head } [] :=
  .going (by simp) rfl (Nat.zero_le _) rfl

theorem asked (runs : Runs store walk answers) :
    Runs store (walk.next store).2 (answers ++
      [(walk.next store).1.map fun step => .slot step.1 (store.stored step.2).span]) := by
  cases runs with
  | going items count room latest =>
    rcases next_cases walk store with ⟨answer, given, ends⟩ | ⟨index, piece, _, found, short, given⟩
    · rw [given]
      refine @ended _ _ _ answers _ 0 rfl rfl items ?_ room
      cases answer with
      | item step => exact absurd rfl (ends step)
      | stop | fault => rfl
    · rw [given]
      refine .going ?_ ?_ ?_ ?_
      · exact List.forall_mem_append.mpr ⟨items, by simp [Pull.map, Pull.slot?]⟩
      · simp [count]
      · rw [List.length_append]
        have : answers.length ≠ (store.arena walk.arena).size := count ▸ short
        simp only [List.length_singleton]
        omega
      · refine ⟨index.toNat, by simp [Pull.map], ?_⟩
        have inside := Store.slot?_isSome_iff.mp (Option.isSome_of_eq_some found)
        rwa [Int.toNat_of_nonneg inside.1]
  | @ended given last stops closed answered items ends room =>
    have stopped : walk.next store = (.stop, walk.close) := next_of_none (by simp [pending, closed])
    rw [stopped]
    refine @ended _ _ _ given last (stops + 1) rfl ?_ items ends room
    rw [answered, List.append_assoc, List.cons_append, List.replicate_succ']
    rfl

theorem extended (runs : Runs store walk answers) (extended : store.Extends after) :
    Runs after walk answers := by
  have grown := extended.size_le walk.arena
  cases runs with
  | going items count room latest =>
    refine .going items count (Nat.le_trans room grown) ?_
    split at latest
    · exact latest
    · obtain ⟨slot, last, found⟩ := latest
      exact ⟨slot, last, extended.slot? found⟩
    · exact latest
  | ended closed answered items ends room =>
    exact .ended closed answered items ends (Nat.le_trans room grown)

theorem length_slots_le (runs : Runs store walk answers) :
    (Pull.slots answers).length ≤ (store.arena walk.arena).size := by
  cases runs with
  | going items count room latest => rwa [Pull.length_slots items]
  | @ended given last stops closed answered items ends room =>
    have nothing : Pull.slots (last :: List.replicate stops .stop) = [] := by
      refine List.filterMap_eq_nil_iff.mpr fun answer among => ?_
      rcases List.mem_cons.mp among with rfl | stop
      · cases answer with
        | item => cases ends
        | stop | fault => rfl
      · rw [List.eq_of_mem_replicate stop]
        rfl
    rw [answered, Pull.slots, List.filterMap_append, ← Pull.slots, ← Pull.slots, nothing,
      List.append_nil, Pull.length_slots items]
    exact room

theorem slot_of_mem (runs : Runs store walk answers) {answer : Pull Item} (among : answer ∈ answers)
    (onward : answer.isEnd = false) : answer.slot?.isSome := by
  cases runs with
  | going items count room latest => exact items answer among
  | ended closed answered items ends room =>
    rw [answered] at among
    rcases List.mem_append.mp among with gave | rest
    · exact items answer gave
    · rcases List.mem_cons.mp rest with rfl | stop
      · rw [ends] at onward
        cases onward
      · rw [List.eq_of_mem_replicate stop] at onward
        cases onward

theorem latest (runs : Runs store walk answers) :
    match walk.place with
    | .start => answers = []
    | .after piece => (∀ answer ∈ answers, answer.isEnd = false) ∧
        ∃ slot, (Pull.slots answers).getLast? = some slot ∧
          store.slot? walk.arena slot = some piece
    | .closed => ∃ answer ∈ answers, answer.isEnd := by
  cases runs with
  | going items count room latest =>
    split at latest
    · exact latest
    · exact ⟨fun answer among => Pull.isEnd_of_slot? (items answer among), latest⟩
    · exact latest.elim
  | ended closed answered items ends room =>
    rw [closed, answered]
    exact ⟨_, List.mem_append_right _ List.mem_cons_self, ends⟩

theorem closed_of_isEnd (runs : Runs store walk answers)
    (ended : ∃ answer ∈ answers, answer.isEnd) : walk.place = .closed := by
  cases runs with
  | going items count room latest =>
    obtain ⟨answer, among, ends⟩ := ended
    rw [Pull.isEnd_of_slot? (items answer among)] at ends
    cases ends
  | ended closed answered items ends room => exact closed

theorem endless_iff (runs : Runs store walk answers) {reason : Int} :
    (walk.next store).1 = .fault (.endlessChain reason) ↔ reason = walk.head ∧
      (Pull.slots answers).length = (store.arena walk.arena).size ∧
      ∃ index, walk.pending store = some index ∧ (store.slot? walk.arena index).isSome := by
  rw [next_eq_endless_iff]
  cases runs with
  | going items count room latest => rw [Pull.length_slots items, count]
  | ended closed answered items ends room => simp [pending, closed]

end Runs

@[simp] theorem head_next (walk : Walk) (store : Store) : (walk.next store).2.head = walk.head := by
  rcases next_cases walk store with ⟨answer, given, _⟩ | ⟨index, piece, _, _, _, given⟩
  · rw [given]
    rfl
  · rw [given]

end Walk

namespace Workspace

variable {printable : Char → Bool} {workspace : Workspace} {id arena : Nat} {head : Int}

def Running (arena : Nat) (head : Int) (store : Store) (cursor : Cursor)
    (answers : List (Pull Item)) : Prop :=
  ∃ walk : Walk, cursor = .walk walk ∧ walk.arena = arena ∧ walk.head = head ∧
    Walk.Runs store walk answers

theorem running_next {store : Store} {cursor : Cursor} {answers : List (Pull Item)}
    (running : Running arena head store cursor answers) :
    Running arena head store (cursor.next store).2 (answers ++ [(cursor.next store).1]) := by
  obtain ⟨walk, rfl, rfl, rfl, runs⟩ := running
  exact ⟨_, rfl, Walk.arena_next walk store, Walk.head_next walk store, runs.asked⟩

theorem running_perform {cursor : Cursor} {answers : List (Pull Item)} {action : Action}
    (running : Running arena head workspace.store cursor answers) :
    Running arena head (workspace.perform printable action).workspace.store cursor answers := by
  obtain ⟨walk, rfl, there, start, runs⟩ := running
  exact ⟨walk, rfl, there, start, runs.extended (extends_perform workspace action)⟩

theorem running_run {cursor : Cursor} (held : workspace.cursors[id]? = some cursor)
    (running : Running arena head workspace.store cursor []) (actions : List Action) :
    ∃ walk : Walk, (workspace.run printable actions).cursors[id]? = some (.walk walk) ∧
      walk.arena = arena ∧ walk.head = head ∧
      Walk.Runs (workspace.run printable actions).store walk
        (workspace.answers printable id actions) := by
  have along : workspace.Along printable (fun _ _ => True) actions :=
    along_of_forall (fun _ _ => trivial) workspace actions
  obtain ⟨_, kept, walk, rfl, there, start, runs⟩ := life_keeps_answers (Running arena head)
    running_next (fun _ _ => running_perform) held running along
  exact ⟨walk, kept, there, start, runs⟩

def Over (_ : Store) (cursor : Cursor) (answers : List (Pull Item)) : Prop :=
  (∃ walk : Walk, cursor = .walk walk ∧ walk.place = .closed) ∧ ∀ answer ∈ answers, answer = .stop

theorem over_next {store : Store} {cursor : Cursor} {answers : List (Pull Item)}
    (quiet : Over store cursor answers) :
    Over store (cursor.next store).2 (answers ++ [(cursor.next store).1]) := by
  obtain ⟨⟨walk, rfl, closed⟩, stopped⟩ := quiet
  have stops : walk.next store = (.stop, walk.close) :=
    Walk.next_of_none (by simp [Walk.pending, closed])
  rw [Cursor.next_walk, stops]
  exact ⟨⟨_, rfl, rfl⟩, List.forall_mem_append.mpr ⟨stopped, by simp [Pull.map]⟩⟩

/-- A walk that has ended says nothing more, whatever becomes of the links. -/
theorem answers_of_closed {walk : Walk} (held : workspace.cursors[id]? = some (.walk walk))
    (closed : walk.place = .closed) (actions : List Action) :
    ∀ answer ∈ workspace.answers printable id actions, answer = .stop := by
  have along : workspace.Along printable (fun _ _ => True) actions :=
    along_of_forall (fun _ _ => trivial) workspace actions
  have start : Over workspace.store (.walk walk) [] := ⟨⟨walk, rfl, closed⟩, nofun⟩
  obtain ⟨_, _, _, stopped⟩ := life_keeps_answers Over over_next (fun _ _ quiet => quiet) held start
    along
  exact stopped

/-- Whatever is done around a walk, to links, pieces and arenas, it has given out at most as many
slots as its arena has, each with the piece that the slot holds. It reports an endless chain
exactly when it has given out as many and is to look at another. As long as the arena then stays
of its size, one request more than it has slots brings the walk to its end, whatever happens to
the links. Once it has ended it only stops. -/
theorem walk_run_of_changes (workspace : Workspace) (arena : Nat) (head : Int)
    (actions : List Action) :
    let walking := (workspace.perform printable (.openWalk arena head)).workspace
    let id := workspace.cursors.size
    let now := walking.run printable actions
    let answers := walking.answers printable id actions
    let size := (now.store.arena arena).size
    (Pull.slots answers).length ≤ size ∧
    (∃ walk, now.cursors[id]? = some (.walk walk) ∧
      now.answers printable id [.pull id 1] =
        [(walk.next now.store).1.map fun step => .slot step.1 (now.store.stored step.2).span] ∧
      (∀ index piece, (walk.next now.store).1 = .item (index, piece) →
        now.store.slot? arena index = some piece) ∧
      (∀ reason, (walk.next now.store).1 = .fault (.endlessChain reason) ↔
        reason = head ∧ (Pull.slots answers).length = size ∧
          ∃ index, walk.pending now.store = some index ∧ (now.store.slot? arena index).isSome) ∧
      match walk.place with
      | .start => answers = []
      | .after piece => (∀ answer ∈ answers, answer.isEnd = false) ∧
          ∃ slot, (Pull.slots answers).getLast? = some slot ∧
            now.store.slot? arena slot = some piece
      | .closed => ∃ answer ∈ answers, answer.isEnd) ∧
    (∀ later, ((now.run printable later).store.arena arena).size = size →
      size < (now.answers printable id later).length →
        ∃ answer ∈ now.answers printable id later, answer.isEnd) ∧
    (∀ count, size < count → ∃ answer ∈ now.answers printable id [.pull id count], answer.isEnd) ∧
    ((∃ answer ∈ answers, answer.isEnd) →
      ∀ later, ∀ answer ∈ now.answers printable id later, answer = .stop) := by
  intro walking id now answers size
  have held : walking.cursors[id]? = some (.walk { arena, head }) := Array.getElem?_push_size
  have fresh : Running arena head walking.store (.walk { arena, head }) [] :=
    ⟨_, rfl, rfl, rfl, .start _ arena head⟩
  obtain ⟨walk, kept, rfl, rfl, runs⟩ :=
    @running_run printable walking id arena head _ held fresh actions
  have ends : ∀ later, ((now.run printable later).store.arena walk.arena).size = size →
      size < (now.answers printable id later).length →
        ∃ answer ∈ now.answers printable id later, answer.isEnd := by
    intro later same many
    by_contra onward
    obtain ⟨last, _, there, _, further⟩ :=
      @running_run printable walking id walk.arena walk.head _ held fresh (actions ++ later)
    rw [answers_append] at further
    have bound := further.length_slots_le
    have items : ∀ answer ∈ now.answers printable id later, answer.slot?.isSome := by
      intro answer among
      have going : answer.isEnd = false :=
        Bool.eq_false_iff.mpr fun ended => onward ⟨answer, among, ended⟩
      exact further.slot_of_mem (List.mem_append_right _ among) going
    have given := Pull.length_slots items
    rw [run_append, there, Pull.slots, List.filterMap_append, List.length_append] at bound
    change _ + (Pull.slots (now.answers printable id later)).length ≤
      ((now.run printable later).store.arena walk.arena).size at bound
    rw [same, given] at bound
    omega
  refine ⟨runs.length_slots_le, ⟨walk, kept, ?_, ?_, fun reason => runs.endless_iff, runs.latest⟩,
    ends, ?_, fun ended => answers_of_closed kept (runs.closed_of_isEnd ended)⟩
  · rw [answers_pull kept, Cursor.answers_pull_one, Cursor.next_walk]
  · intro index piece given
    rcases Walk.next_cases walk now.store with
      ⟨answer, ended, none⟩ | ⟨pending, _, _, found, _, gives⟩
    · rw [ended] at given
      exact absurd given (none _)
    · rw [gives] at given
      cases given
      have inside := Store.slot?_isSome_iff.mp (Option.isSome_of_eq_some found)
      rwa [Int.toNat_of_nonneg inside.1]
  · intro count many
    by_contra onward
    have going : ∀ answer ∈ ((Cursor.walk walk).pull now.store count).1.answers,
        answer.isEnd = false := by
      intro answer among
      rw [answers_pull kept] at onward
      exact Bool.eq_false_iff.mpr fun ended => onward ⟨answer, among, ended⟩
    have filled := Cursor.length_answers_pull count going
    refine onward (ends _ ?_ ?_)
    · simp only [run_cons, run_nil, store_perform]
      rfl
    · rw [answers_pull kept, filled]
      exact many

/-- A walk at the first of two pieces, when that piece is linked to itself, is given it again, and
then has given out as much as there are slots. -/
example :
    let start : Workspace := { store := ((Store.document 6 (by decide)).divideSlot 9 0 0 4).store }
    let walking := (start.perform (fun _ => true) (.openWalk 0 0)).workspace
    let answers := walking.answers (fun _ => true) 0 [.pull 0 1, .setNext 0 (some 0), .pull 0 9]
    Pull.slots answers = [0, 0] ∧ answers.length = 3 := by decide +kernel

end Workspace

end Patchwork
