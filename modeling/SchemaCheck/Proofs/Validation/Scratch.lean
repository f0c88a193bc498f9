import SchemaCheck.Validation.Optimized
import SchemaCheck.Validation.Location

/-!
What working with a buffer comes to. A cut back to a mark undoes the step that was made behind it,
and a buffer of the pool is empty. Work with a buffer is described by the messages that it adds and
the patterns that it asks for: neither depends on anything but the path.
-/

namespace SchemaCheck

theorem utf8ByteSize_ofList_cons (c : Char) (text : List Char) :
    (String.ofList (c :: text)).utf8ByteSize = c.utf8Size + (String.ofList text).utf8ByteSize := by
  rw [show String.ofList (c :: text) = String.singleton c ++ String.ofList text by
    apply String.toList_injective
    simp]
  rw [String.utf8ByteSize_append, String.utf8ByteSize_singleton]

theorem takeBytes?_append (front back : List Char) :
    takeBytes? (String.ofList front).utf8ByteSize (front ++ back) = some front := by
  induction front with
  | nil =>
    rw [show (String.ofList []).utf8ByteSize = 0 by rfl]
    simp only [takeBytes?]
  | cons c front ih =>
    have positive := c.utf8Size_pos
    rw [utf8ByteSize_ofList_cons]
    obtain ⟨size, total⟩ : ∃ size, c.utf8Size + (String.ofList front).utf8ByteSize = size + 1 :=
      ⟨c.utf8Size + (String.ofList front).utf8ByteSize - 1, by omega⟩
    have left : size + 1 - c.utf8Size = (String.ofList front).utf8ByteSize := by omega
    rw [total, List.cons_append, takeBytes?, if_pos (by omega), left, ih, Option.map_some]

theorem takeBytes?_eq_some_iff {count : Nat} {text front : List Char} :
    takeBytes? count text = some front ↔
      ∃ back, text = front ++ back ∧ (String.ofList front).utf8ByteSize = count := by
  constructor
  · intro taken
    fun_induction takeBytes? count text generalizing front with
    | case1 text =>
      obtain rfl := Option.some.inj taken
      exact ⟨text, rfl, rfl⟩
    | case2 => cases taken
    | case3 count c rest fits ih =>
      obtain ⟨front, inner, rfl⟩ := Option.map_eq_some_iff.mp taken
      obtain ⟨back, rfl, size⟩ := ih inner
      refine ⟨back, rfl, ?_⟩
      rw [utf8ByteSize_ofList_cons, size]
      omega
    | case4 => cases taken
  · rintro ⟨back, rfl, rfl⟩
    exact takeBytes?_append front back

namespace Scratch

@[simp]
theorem pushAll_nil (scratch : Scratch) : scratch.pushAll [] = scratch := by
  simp [pushAll]

@[simp]
theorem pushAll_pushAll (scratch : Scratch) (first second : List String) :
    (scratch.pushAll first).pushAll second = scratch.pushAll (first ++ second) := by
  simp [pushAll]

@[simp]
theorem pushAll_path (scratch : Scratch) (errors : List String) :
    (scratch.pushAll errors).path = scratch.path := rfl

theorem push_eq_pushAll (scratch : Scratch) (error : String) :
    scratch.push error = scratch.pushAll [error] := rfl

@[simp]
theorem extend_path (scratch : Scratch) (text : String) :
    (scratch.extend text).path = scratch.path ++ text := rfl

/-- Whatever has been pushed meanwhile, the cut finds the place where the path was extended. -/
theorem cut?_extend (scratch : Scratch) (text : String) (errors : List String) :
    ((scratch.extend text).pushAll errors).cut? scratch.mark = some (scratch.pushAll errors) := by
  have front := takeBytes?_append scratch.path.toList text.toList
  rw [String.ofList_toList, ← String.toList_append] at front
  simp only [cut?, mark, pushAll_path, extend_path, front, Option.map_some, String.ofList_toList]
  rfl

/-- A cut is possible exactly inside the path and between two characters. -/
theorem cut?_isSome_iff {scratch : Scratch} {mark : Nat} :
    (scratch.cut? mark).isSome ↔ (String.Pos.Raw.mk mark).IsValid scratch.path := by
  rw [cut?, Option.isSome_map, Option.isSome_iff_exists, String.Pos.Raw.isValid_iff_exists_append]
  constructor
  · rintro ⟨front, taken⟩
    obtain ⟨back, path, size⟩ := takeBytes?_eq_some_iff.mp taken
    refine ⟨.ofList front, .ofList back, ?_, ?_⟩
    · apply String.toList_injective
      simpa using path
    · rw [String.rawEndPos, size]
  · rintro ⟨front, back, path, place⟩
    refine ⟨front.toList, takeBytes?_eq_some_iff.mpr ⟨back.toList, ?_, ?_⟩⟩
    · rw [path, String.toList_append]
    · rw [String.ofList_toList]
      exact (congrArg String.Pos.Raw.byteIdx place).symm

def fieldSuffix (path name : String) : String := if path.isEmpty then name else "." ++ name

theorem enterField_eq (scratch : Scratch) (name : String) :
    scratch.enterField name = scratch.extend (fieldSuffix scratch.path name) := by
  unfold enterField fieldSuffix
  split
  · rfl
  · simp only [extend, String.append_assoc]

end Scratch

theorem Location.field_path (location : Location) (name : String) :
    (location.field name).path = location.path ++ Scratch.fieldSuffix location.path name := by
  unfold Location.field Scratch.fieldSuffix
  split
  next empty => rw [String.isEmpty_iff.mp empty, String.empty_append]
  next => rw [String.append_assoc]

theorem Location.element_path (location : Location) (index : Nat) :
    (location.element index).path = location.path ++ ("[" ++ toString index ++ "]") := by
  simp only [Location.element, String.append_assoc]

namespace PatternCache

theorem request_fst (cache : PatternCache) (text : String) :
    (cache.request text).1 = Pattern.ofText? text := by
  unfold request
  split
  next entry found =>
    have same : entry.text = text := by
      have := List.find?_some found
      simpa using this
    rw [← same, entry.compiled]
  next absent =>
    split
    next h => exact h.symm
    next pattern h => exact h.symm

def requestAll (cache : PatternCache) (texts : List String) : PatternCache :=
  texts.foldl (fun cache text => (cache.request text).2) cache

@[simp]
theorem requestAll_nil (cache : PatternCache) : cache.requestAll [] = cache := rfl

@[simp]
theorem requestAll_requestAll (cache : PatternCache) (first second : List String) :
    (cache.requestAll first).requestAll second = cache.requestAll (first ++ second) := by
  simp [requestAll]

end PatternCache

namespace Optimized

def Progress.after (progress : Progress) (messages requests : List String) : Progress :=
  ⟨progress.scratch.pushAll messages, progress.cache.requestAll requests⟩

@[simp]
theorem Progress.after_nil (progress : Progress) : progress.after [] [] = progress := by
  simp [Progress.after]

@[simp]
theorem Progress.after_path (progress : Progress) (messages requests : List String) :
    (progress.after messages requests).scratch.path = progress.scratch.path := rfl

@[simp]
theorem Progress.after_after (progress : Progress) (first second asked askedNext : List String) :
    (progress.after first asked).after second askedNext =
      progress.after (first ++ second) (asked ++ askedNext) := by
  simp [Progress.after]

theorem Progress.report_eq (progress : Progress) (violation : Violation) :
    progress.report violation = progress.after [violation.message progress.scratch.path] [] := by
  simp [Progress.report, Progress.after, Scratch.push_eq_pushAll]

theorem Progress.reportIf_eq (progress : Progress) (wrong : Bool) (violation : Violation) :
    progress.reportIf wrong violation =
      progress.after (if wrong then [violation.message progress.scratch.path] else []) [] := by
  unfold Progress.reportIf
  split <;> simp [Progress.report_eq]

theorem Progress.inside_eq_some_iff {progress last : Progress} {enter : Scratch → Scratch}
    {work : Progress → Option Progress} : progress.inside enter work = some last ↔
      ∃ worked, work { progress with scratch := enter progress.scratch } = some worked ∧
        ∃ scratch, worked.scratch.cut? progress.scratch.mark = some scratch ∧
          { worked with scratch } = last := by
  simp only [Progress.inside, Option.bind_eq_bind, Option.bind_eq_some_iff, Option.pure_def,
    Option.some.injEq]

/-- At a path the work adds these messages, asks for these patterns, and does nothing else: it
always ends, leaves the path as it is, and goes on in the same way whatever the buffer and the cache
hold. -/
def Reports (work : Progress → Option Progress) (path : String)
    (messages requests : List String) : Prop :=
  ∀ progress, progress.scratch.path = path → work progress = some (progress.after messages requests)

namespace Reports

variable {work next : Progress → Option Progress} {path : String}
  {messages more asked askedNext : List String}

theorem congr (reports : Reports work path messages asked)
    (same : ∀ progress, next progress = work progress) :
    Reports next path messages asked :=
  fun progress here => by rw [same, reports progress here]

theorem nothing : Reports some path [] [] :=
  fun progress _ => by rw [Progress.after_nil]

theorem violation (violation : Violation) :
    Reports (fun progress => some (progress.report violation)) path [violation.message path] [] :=
  fun progress here => by simp only [Progress.report_eq, here]

theorem bind (first : Reports work path messages asked)
    (second : Reports next path more askedNext) :
    Reports (fun progress => work progress >>= next) path (messages ++ more)
      (asked ++ askedNext) := by
  intro progress here
  simp only [first progress here, Option.bind_eq_bind, Option.bind_some]
  rw [second _ (by rw [Progress.after_path, here]), Progress.after_after]

theorem inside {enter : Scratch → Scratch} {suffix : String}
    (entered : ∀ scratch, scratch.path = path → enter scratch = scratch.extend suffix)
    (reports : Reports work (path ++ suffix) messages asked) :
    Reports (fun progress => progress.inside enter work) path messages asked := by
  intro progress here
  have worked := reports ⟨progress.scratch.extend suffix, progress.cache⟩ (by simp [here])
  simp only [Progress.inside, entered _ here, worked, Option.bind_eq_bind, Option.bind_some,
    Progress.after, Scratch.cut?_extend]
  rfl

end Reports

end Optimized

end SchemaCheck
