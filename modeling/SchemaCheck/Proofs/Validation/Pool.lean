import SchemaCheck.Proofs.Validation.Session

/-!
What a session does with the buffers of its pool. No buffer is in two places at once, those that
wait are empty, and no more wait than may (`ScratchPool.Orderly`). A buffer on loan is changed by
nothing but the actions that are addressed to it (`Session.step_orderly`), so the errors that are
taken from it are the ones that were pushed to it (`Session.collects`). This is so after every run
of actions (`Session.lends_safely`).
-/

namespace SchemaCheck

namespace ScratchPool

theorem acquire_idleCount (pool : ScratchPool) :
    pool.acquire.2.idleCount = pool.idleCount - 1 := by
  unfold acquire idleCount
  split
  next idle => rw [idle, List.length_cons, Nat.add_sub_cancel]
  next idle => rw [idle, List.length_nil]

@[simp]
theorem acquire_maxRetained (pool : ScratchPool) :
    pool.acquire.2.maxRetained = pool.maxRetained := by
  unfold acquire
  split <;> rfl

theorem release_idleCount {pool : ScratchPool} (bounded : pool.idleCount ≤ pool.maxRetained)
    (scratch : Scratch) :
    (pool.release scratch).idleCount = min (pool.idleCount + 1) pool.maxRetained := by
  unfold release
  unfold idleCount at *
  split
  next room => rw [List.length_cons, Nat.min_eq_left room]
  next full => omega

@[simp]
theorem release_maxRetained (pool : ScratchPool) (scratch : Scratch) :
    (pool.release scratch).maxRetained = pool.maxRetained := by
  unfold release
  split <;> rfl

/-- The numbers of some buffers, each of them given to one buffer only. -/
structure Numbered (made : Nat) (serials : List Nat) : Prop where
  distinct : serials.Nodup
  given : ∀ serial ∈ serials, serial < made

namespace Numbered

variable {made : Nat} {serials others : List Nat}

theorem new (numbered : Numbered made serials) : Numbered (made + 1) (made :: serials) := by
  refine ⟨List.nodup_cons.mpr ⟨fun member => ?_, numbered.distinct⟩, fun serial member => ?_⟩
  · exact Nat.lt_irrefl _ (numbered.given made member)
  · rcases List.mem_cons.mp member with rfl | old
    · exact Nat.lt_succ_self _
    · exact Nat.lt_succ_of_lt (numbered.given serial old)

theorem perm (numbered : Numbered made serials) (order : serials.Perm others) :
    Numbered made others :=
  ⟨order.nodup_iff.mp numbered.distinct,
    fun serial member => numbered.given serial (order.mem_iff.mpr member)⟩

theorem tail {serial : Nat} (numbered : Numbered made (serial :: serials)) :
    Numbered made serials :=
  ⟨(List.nodup_cons.mp numbered.distinct).2,
    fun other member => numbered.given other (List.mem_cons_of_mem _ member)⟩

end Numbered

/-- A buffer is on loan once, or waits once, or neither; the buffers that wait are empty, and no
more of them wait than may. -/
structure Orderly (maxRetained : Nat) (pool : ScratchPool) (held : List Scratch) : Prop where
  limit : pool.maxRetained = maxRetained
  bounded : pool.idleCount ≤ maxRetained
  clean : pool.Clean
  numbered : Numbered pool.made ((held ++ pool.idle).map Scratch.serial)

namespace Orderly

variable {maxRetained : Nat} {pool : ScratchPool} {held rest : List Scratch} {scratch : Scratch}

theorem acquire (orderly : Orderly maxRetained pool held) :
    Orderly maxRetained pool.acquire.2 (pool.acquire.1 :: held) := by
  obtain ⟨limit, bounded, clean, numbered⟩ := orderly
  refine ⟨by rw [acquire_maxRetained, limit], ?_, (acquire_clean clean).2, ?_⟩
  · rw [acquire_idleCount]
    omega
  · unfold ScratchPool.acquire
    split
    next top others idle =>
      rw [idle] at numbered
      exact numbered.perm (List.perm_middle.map Scratch.serial)
    next idle => exact numbered.new

theorem release (orderly : Orderly maxRetained pool held) (order : held.Perm (scratch :: rest)) :
    Orderly maxRetained (pool.release scratch) rest := by
  obtain ⟨limit, bounded, clean, numbered⟩ := orderly
  refine ⟨by rw [release_maxRetained, limit], ?_, release_clean clean scratch, ?_⟩
  · rw [release_idleCount (limit ▸ bounded), limit]
    exact Nat.min_le_right _ _
  · have moved := numbered.perm ((order.append_right pool.idle).map Scratch.serial)
    unfold ScratchPool.release
    split
    next room =>
      have back : (scratch.reset :: (rest ++ pool.idle)).Perm
          (rest ++ scratch.reset :: pool.idle) := List.perm_middle.symm
      exact moved.perm (back.map Scratch.serial)
    next full => exact moved.tail

theorem recycle (orderly : Orderly maxRetained pool held) :
    Orderly maxRetained pool.recycle held := orderly.acquire.release (.refl _)

theorem recycle_idleCount (orderly : Orderly maxRetained pool held) :
    pool.recycle.idleCount = max pool.idleCount (min 1 maxRetained) := by
  have taken := orderly.acquire
  rw [ScratchPool.recycle, release_idleCount (taken.limit ▸ taken.bounded), taken.limit,
    acquire_idleCount]
  have := orderly.bounded
  omega

theorem write (orderly : Orderly maxRetained pool held) {change : Scratch → Scratch}
    (same : ∀ scratch, (change scratch).serial = scratch.serial) :
    Orderly maxRetained pool (held.map change) := by
  have serials : (held.map change).map Scratch.serial = held.map Scratch.serial := by
    rw [List.map_map]
    exact List.map_congr_left fun scratch _ => same scratch
  refine ⟨orderly.limit, orderly.bounded, orderly.clean, ?_⟩
  rw [List.map_append, serials, ← List.map_append]
  exact orderly.numbered

end Orderly

end ScratchPool

theorem perm_of_found {held : List Scratch} (distinct : (held.map Scratch.serial).Nodup)
    {serial : Nat} {scratch : Scratch} (found : held.find? (·.serial = serial) = some scratch) :
    held.Perm (scratch :: held.filter (·.serial ≠ serial)) := by
  induction held with
  | nil => cases found
  | cons first rest ih =>
    obtain ⟨fresh, distinct⟩ := List.nodup_cons.mp distinct
    by_cases here : first.serial = serial
    · rw [List.find?_cons_of_pos (by simpa using here)] at found
      obtain rfl := Option.some.inj found
      have others : rest.filter (·.serial ≠ serial) = rest := by
        refine List.filter_eq_self.mpr fun other member => ?_
        have : other.serial ≠ serial := fun same =>
          fresh (here ▸ same ▸ List.mem_map_of_mem member)
        simpa using this
      rw [List.filter_cons_of_neg (by simpa using here), others]
    · rw [List.find?_cons_of_neg (by simpa using here)] at found
      rw [List.filter_cons_of_pos (by simpa using here)]
      exact ((ih distinct found).cons first).trans (.swap _ _ _)

namespace Session

def idleCount (session : Session) : Nat := session.validator.pool.idleCount

def buffer? (session : Session) (serial : Nat) : Option Scratch :=
  session.held.find? (·.serial = serial)

/-- What an action makes of a buffer on loan that it does not release: nothing new, unless it is
addressed to the buffer. -/
def Action.edit (serial : Nat) (scratch : Scratch) : Action → Scratch
  | .pushError target error => if target = serial then scratch.push error else scratch
  | .extendPath target text => if target = serial then scratch.extend text else scratch
  | .takeErrors target => if target = serial then scratch.takeErrors.2 else scratch
  | _ => scratch

def Action.pushed (serial : Nat) : Action → List String
  | .pushError target error => if target = serial then [error] else []
  | _ => []

theorem Action.edit_errors {action : Action} {serial : Nat} (notTaken : action ≠ .takeErrors serial)
    (scratch : Scratch) :
    (action.edit serial scratch).errors = scratch.errors ++ action.pushed serial := by
  cases action with
  | pushError target error =>
    simp only [edit, pushed]
    split
    · rfl
    · rw [List.append_nil]
  | extendPath target text =>
    simp only [edit, pushed]
    split <;> exact (List.append_nil _).symm
  | takeErrors target =>
    have other : target ≠ serial := fun same => notTaken (same ▸ rfl)
    simp only [edit, pushed, if_neg other, List.append_nil]
  | _ => exact (List.append_nil _).symm

theorem buffer?_serial {session : Session} {serial : Nat} {scratch : Scratch}
    (found : session.buffer? serial = some scratch) : scratch.serial = serial := by
  simpa using List.find?_some found

theorem buffer?_lent {session next : Session} {scratch : Scratch}
    (held : next.held = scratch :: session.held) (serial : Nat) :
    next.buffer? serial =
      if scratch.serial = serial then some scratch else session.buffer? serial := by
  rw [buffer?, held]
  split
  next same => exact List.find?_cons_of_pos (decide_eq_true same)
  next different => exact List.find?_cons_of_neg fun same => different (of_decide_eq_true same)

def Orderly (maxRetained : Nat) (session : Session) : Prop :=
  session.validator.pool.Orderly maxRetained session.held

variable {maxRetained : Nat}

theorem start_orderly (settings : ValidationSettings) (registry : Registry) (maxRetained : Nat) :
    (start settings registry maxRetained).Orderly maxRetained :=
  ⟨rfl, Nat.zero_le _, fun _ member => (nomatch member), .nil, fun _ member => (nomatch member)⟩

section Steps

variable {session : Session}

theorem validated_orderly (orderly : session.Orderly maxRetained) {next : OptimizedValidator}
    (taken : Bool)
    (pool : next.pool =
      if taken then session.validator.pool.recycle else session.validator.pool) :
    Orderly maxRetained { session with validator := next } := by
  unfold Orderly
  rw [pool]
  split
  · exact ScratchPool.Orderly.recycle orderly
  · exact orderly

theorem acquire_orderly (orderly : session.Orderly maxRetained) :
    ∃ scratch next, session.step .acquire = some next ∧ next.Orderly maxRetained ∧
      next.held = scratch :: session.held ∧ scratch.Clean ∧
      next.idleCount = session.idleCount - 1 ∧
      next.buffer? scratch.serial = some scratch ∧
      ∀ serial other, session.buffer? serial = some other → next.buffer? serial = some other := by
  have taken := ScratchPool.Orderly.acquire orderly
  refine ⟨session.validator.pool.acquire.1,
    ⟨{ session.validator with pool := session.validator.pool.acquire.2 },
      session.validator.pool.acquire.1 :: session.held⟩, rfl, taken, rfl,
    (ScratchPool.acquire_clean (ScratchPool.Orderly.clean orderly)).1,
    ScratchPool.acquire_idleCount _, ?_, fun serial other found => ?_⟩
  · rw [buffer?_lent rfl, if_pos rfl]
  · have fresh : session.validator.pool.acquire.1.serial ≠ serial := by
      intro same
      have present : other ∈ session.held := List.mem_of_find?_eq_some found
      apply (List.nodup_cons.mp taken.numbered.distinct).1
      rw [same, ← buffer?_serial found]
      exact List.mem_map_of_mem (List.mem_append_left _ present)
    rw [buffer?_lent rfl, if_neg fresh, found]

theorem edit_orderly (orderly : session.Orderly maxRetained) (target : Nat)
    (change : Scratch → Scratch) (same : ∀ scratch, (change scratch).serial = scratch.serial) :
    (session.edit target change).Orderly maxRetained ∧
      ∀ serial, (session.edit target change).buffer? serial =
        (session.buffer? serial).map fun scratch =>
          if target = serial then change scratch else scratch := by
  have kept (scratch : Scratch) :
      (if scratch.serial = target then change scratch else scratch).serial = scratch.serial := by
    split
    · exact same scratch
    · rfl
  refine ⟨ScratchPool.Orderly.write orderly kept, fun serial => ?_⟩
  unfold buffer? edit
  rw [List.find?_map]
  simp only [Function.comp_def, kept]
  refine Option.map_congr fun scratch found => ?_
  have here : session.buffer? serial = some scratch := found
  rw [buffer?_serial here]
  simp only [eq_comm]

theorem release_orderly (orderly : session.Orderly maxRetained) {target : Nat} {scratch : Scratch}
    (found : session.buffer? target = some scratch) :
    ∃ next, session.step (.release target) = some next ∧ next.Orderly maxRetained ∧
      next.idleCount = min (session.idleCount + 1) maxRetained ∧
      ∀ serial, next.buffer? serial =
        if target = serial then none else session.buffer? serial := by
  have distinct : (session.held.map Scratch.serial).Nodup := by
    have all := orderly.numbered.distinct
    rw [List.map_append] at all
    exact (List.nodup_append.mp all).1
  have order := perm_of_found distinct found
  unfold buffer? at found
  refine ⟨⟨{ session.validator with pool := session.validator.pool.release scratch },
    session.held.filter (·.serial ≠ target)⟩, by simp only [step, found],
    ScratchPool.Orderly.release orderly order, ?_, fun serial => ?_⟩
  · rw [← orderly.limit]
    exact ScratchPool.release_idleCount (orderly.limit ▸ orderly.bounded) scratch
  · unfold buffer?
    rw [List.find?_filter]
    split
    next same =>
      refine List.find?_eq_none.mpr fun other _ both => ?_
      simp only [decide_eq_true_eq, same] at both
      exact both.1 both.2
    next different =>
      congr 1
      funext other
      have : other.serial = serial → other.serial ≠ target := by
        rintro rfl
        exact Ne.symm different
      simpa using this

/-- An action keeps the buffers in order, and changes a buffer on loan only if it is addressed
to it. -/
theorem step_orderly (orderly : session.Orderly maxRetained) (action : Action) :
    ∃ next, session.step action = some next ∧ next.Orderly maxRetained ∧
      ∀ serial scratch, session.buffer? serial = some scratch → action ≠ .release serial →
        next.buffer? serial = some (action.edit serial scratch) := by
  have clean := ScratchPool.Orderly.clean orderly
  have edited (target : Nat) (change : Scratch → Scratch)
      (same : ∀ scratch, (change scratch).serial = scratch.serial) :
      ∃ next, some (session.edit target change) = some next ∧ next.Orderly maxRetained ∧
        ∀ serial scratch, session.buffer? serial = some scratch →
          next.buffer? serial = some (if target = serial then change scratch else scratch) := by
    obtain ⟨kept, changed⟩ := edit_orderly orderly target change same
    exact ⟨_, rfl, kept, fun serial scratch found => by rw [changed, found, Option.map_some]⟩
  cases action with
  | validate schema value =>
    obtain ⟨next, ran, _, _, pool⟩ := OptimizedValidator.validate_eq clean schema value
    exact ⟨{ session with validator := next }, by simp only [step, ran, Option.map_some],
      validated_orderly orderly true pool, fun _ _ found _ => found⟩
  | validateText schema text =>
    obtain ⟨next, ran, _, _, pool⟩ := OptimizedValidator.validateText_eq clean schema text
    exact ⟨{ session with validator := next }, by simp only [step, ran, Option.map_some],
      validated_orderly orderly true pool, fun _ _ found _ => found⟩
  | validateDocument schema document =>
    obtain ⟨next, ran, _, _, pool⟩ := OptimizedValidator.validateDocument_eq clean schema document
    exact ⟨{ session with validator := next }, by simp only [step, ran, Option.map_some],
      validated_orderly orderly _ pool, fun _ _ found _ => found⟩
  | compile pattern => exact ⟨_, rfl, orderly, fun _ _ found _ => found⟩
  | acquire =>
    obtain ⟨_, next, stepped, kept, _, _, _, _, others⟩ := acquire_orderly orderly
    exact ⟨next, stepped, kept, fun serial scratch found _ => others serial scratch found⟩
  | pushError target error =>
    obtain ⟨next, stepped, kept, changed⟩ := edited target (·.push error) fun _ => rfl
    exact ⟨next, stepped, kept, fun serial scratch found _ => changed serial scratch found⟩
  | extendPath target text =>
    obtain ⟨next, stepped, kept, changed⟩ := edited target (·.extend text) fun _ => rfl
    exact ⟨next, stepped, kept, fun serial scratch found _ => changed serial scratch found⟩
  | takeErrors target =>
    obtain ⟨next, stepped, kept, changed⟩ := edited target (·.takeErrors.2) fun _ => rfl
    exact ⟨next, stepped, kept, fun serial scratch found _ => changed serial scratch found⟩
  | release target =>
    cases held : session.buffer? target with
    | none =>
      unfold buffer? at held
      exact ⟨session, by simp only [step, held], orderly, fun _ _ found _ => found⟩
    | some released =>
      obtain ⟨next, stepped, kept, _, others⟩ := release_orderly orderly held
      refine ⟨next, stepped, kept, fun serial scratch found notReleased => ?_⟩
      rw [others, if_neg fun same : target = serial => notReleased (same ▸ rfl)]
      exact found
  | register name check => exact ⟨_, rfl, orderly, fun _ _ found _ => found⟩

end Steps

/-- No run of actions gets stuck or brings the buffers out of order. -/
theorem run_orderly {session : Session} (orderly : session.Orderly maxRetained)
    (actions : List Action) :
    ∃ next, session.run actions = some next ∧ next.Orderly maxRetained := by
  induction actions generalizing session with
  | nil => exact ⟨session, rfl, orderly⟩
  | cons action rest ih =>
    obtain ⟨next, stepped, after, _⟩ := step_orderly orderly action
    obtain ⟨last, ran, ended⟩ := ih after
    refine ⟨last, ?_, ended⟩
    rw [run, List.foldlM_cons, stepped]
    exact ran

theorem run_errors {session : Session} (orderly : session.Orderly maxRetained) {serial : Nat}
    {scratch : Scratch} (found : session.buffer? serial = some scratch) (actions : List Action)
    (kept : ∀ action ∈ actions, action ≠ .takeErrors serial ∧ action ≠ .release serial) :
    ∃ next last, session.run actions = some next ∧ next.buffer? serial = some last ∧
      last.errors = scratch.errors ++ actions.flatMap (·.pushed serial) := by
  induction actions generalizing session scratch with
  | nil => exact ⟨session, scratch, rfl, found, (List.append_nil _).symm⟩
  | cons action rest ih =>
    obtain ⟨⟨notTaken, notReleased⟩, kept⟩ := List.forall_mem_cons.mp kept
    obtain ⟨next, stepped, after, changed⟩ := step_orderly orderly action
    obtain ⟨last, buffer, ran, there, errors⟩ := ih after (changed serial scratch found notReleased)
      kept
    refine ⟨last, buffer, ?_, there, ?_⟩
    · rw [run, List.foldlM_cons, stepped]
      exact ran
    · rw [errors, Action.edit_errors notTaken, List.append_assoc, List.flatMap_cons]

/-- When errors are next taken from the buffer, they are those that are pushed to it from now on,
and none are left in it. -/
def Collects (session : Session) (serial : Nat) : Prop :=
  ∀ actions, (∀ action ∈ actions, action ≠ .takeErrors serial ∧ action ≠ .release serial) →
    ∃ next scratch, session.run actions = some next ∧ next.buffer? serial = some scratch ∧
      scratch.takeErrors.1 = actions.flatMap (·.pushed serial) ∧ scratch.takeErrors.2.errors = []

theorem collects {session : Session} (orderly : session.Orderly maxRetained) {serial : Nat}
    {scratch : Scratch} (found : session.buffer? serial = some scratch)
    (empty : scratch.errors = []) : session.Collects serial := by
  intro actions kept
  obtain ⟨next, last, ran, there, errors⟩ := run_errors orderly found actions kept
  rw [empty, List.nil_append] at errors
  exact ⟨next, last, ran, there, errors, rfl⟩

structure LendsSafely (maxRetained : Nat) (session : Session) : Prop where
  /-- No buffer is on loan twice, or on loan while it waits. -/
  distinct : ((session.held ++ session.validator.pool.idle).map Scratch.serial).Nodup
  /-- No more buffers wait than may. -/
  bounded : session.idleCount ≤ maxRetained
  /-- A buffer that is borrowed is empty, and one less waits than before. -/
  acquire : ∃ scratch next, session.step .acquire = some next ∧
    next.held = scratch :: session.held ∧ scratch.errors = [] ∧ scratch.path = "" ∧
    next.idleCount = session.idleCount - 1 ∧ next.Collects scratch.serial
  /-- A buffer on loan changes only by actions that are addressed to it. -/
  edit : ∀ action serial scratch, session.buffer? serial = some scratch →
    action ≠ .release serial → ∃ next, session.step action = some next ∧
      next.buffer? serial = some (action.edit serial scratch)
  /-- Errors that are taken are taken once. -/
  takeErrors : ∀ serial scratch, session.buffer? serial = some scratch →
    ∃ next, session.step (.takeErrors serial) = some next ∧ next.Collects serial
  /-- A buffer that is returned is no longer on loan. It waits, unless enough others do. -/
  release : ∀ serial scratch, session.buffer? serial = some scratch →
    ∃ next, session.step (.release serial) = some next ∧ next.buffer? serial = none ∧
      next.idleCount = min (session.idleCount + 1) maxRetained
  /-- A validation returns the buffer that it borrows. -/
  validate : ∀ schema value, ∃ result next,
    session.validator.validate schema value = some (result, next) ∧
      session.step (.validate schema value) = some { session with validator := next } ∧
      next.pool.idleCount = max session.idleCount (min 1 maxRetained)
  /-- So does the validation of a text, whether the text can be read or not. -/
  validateText : ∀ schema text, ∃ outcome next,
    session.validator.validateText schema text = some (outcome, next) ∧
      session.step (.validateText schema text) = some { session with validator := next } ∧
      next.pool.idleCount = max session.idleCount (min 1 maxRetained)

/-- Whatever has been done before, buffers can be borrowed safely, and validations return the ones
that they borrow. -/
theorem lends_safely (settings : ValidationSettings) (registry : Registry) (maxRetained : Nat)
    (actions : List Action) :
    ∃ session, (start settings registry maxRetained).run actions = some session ∧
      session.LendsSafely maxRetained := by
  obtain ⟨session, ran, orderly⟩ :=
    run_orderly (start_orderly settings registry maxRetained) actions
  have clean := ScratchPool.Orderly.clean orderly
  refine ⟨session, ran, orderly.numbered.distinct, orderly.bounded, ?_, ?_, ?_, ?_, ?_, ?_⟩
  · obtain ⟨scratch, next, stepped, after, held, empty, idle, found, _⟩ := acquire_orderly orderly
    exact ⟨scratch, next, stepped, held, empty.errors, empty.path, idle,
      collects after found empty.errors⟩
  · intro action serial scratch found notReleased
    obtain ⟨next, stepped, _, changed⟩ := step_orderly orderly action
    exact ⟨next, stepped, changed serial scratch found notReleased⟩
  · intro serial scratch found
    obtain ⟨next, stepped, after, changed⟩ := step_orderly orderly (.takeErrors serial)
    have taken := changed serial scratch found (by simp)
    simp only [Action.edit, if_pos] at taken
    exact ⟨next, stepped, collects after taken rfl⟩
  · intro serial scratch found
    obtain ⟨next, stepped, _, idle, others⟩ := release_orderly orderly found
    exact ⟨next, stepped, (others serial).trans (if_pos rfl), idle⟩
  · intro schema value
    obtain ⟨next, validated, _, _, pool⟩ := OptimizedValidator.validate_eq clean schema value
    exact ⟨_, next, validated, by simp only [step, validated, Option.map_some],
      pool ▸ ScratchPool.Orderly.recycle_idleCount orderly⟩
  · intro schema text
    obtain ⟨next, validated, _, _, pool⟩ := OptimizedValidator.validateText_eq clean schema text
    exact ⟨_, next, validated, by simp only [step, validated, Option.map_some],
      pool ▸ ScratchPool.Orderly.recycle_idleCount orderly⟩

end Session

end SchemaCheck
