import LineScript.Proofs.Wording
import LineScript.Store.Request
import Mathlib.Data.List.Induction

/-!
# What a store remembers

A store answers requests one after the other, and what it answers depends on the requests before.
`Store.LastSet` reads off these alone which value a letter has: the last one it was set to, unless
the store has been cleared since. `Store.Answers` says what the answer to a request is then, given
the requests before it, with names that are not exactly one ASCII letter refused. The refusal shows
the name; what is too long to be shown (`VarName.IsTooLong`) is refused too, but for that reason.

One request changes a store as it changes this reading of the history (`Store.get?_answer_iff`,
`Store.lastSet_concat`), so after any list of requests the store is the partial map from letters to
the values they were last set to (`Store.get?_answerAll_iff`), and its bindings, set one after the
other in a new store, make the same store again (`Store.ofBindings_bindings`).
-/

namespace LineScript

open Text

/-! ### Names of variables -/

theorem Variable.isPlainLetter_letter (v : Variable) : isPlainLetter v.letter = true := by
  revert v
  decide

theorem Variable.exists_letter_eq {c : Char} (hc : isPlainLetter c = true) :
    ∃ v : Variable, v.letter = c := by
  cases hv : ofChar? c with
  | some v => exact ⟨v, letter_of_ofChar? hv⟩
  | none =>
    have hrange := toNat_of_isPlainLetter hc
    unfold ofChar? at hv
    split_ifs at hv with hlower hupper
    omega

theorem Variable.letter_injective : Function.Injective letter := fun v w h =>
  Option.some.inj (by rw [← ofChar?_letter, h, ofChar?_letter])

namespace VarName

/-- A name that a variable can have: a text of exactly one ASCII letter. -/
def IsLetter (name : VarName) : Prop := ∃ c, isPlainLetter c = true ∧ name = .text [c]

theorem isLetter_iff {name : VarName} :
    name.IsLetter ↔ ∃ v : Variable, name = .text [v.letter] := by
  constructor
  · rintro ⟨c, hc, rfl⟩
    obtain ⟨v, rfl⟩ := Variable.exists_letter_eq hc
    exact ⟨v, rfl⟩
  · rintro ⟨v, rfl⟩
    exact ⟨v.letter, v.isPlainLetter_letter, rfl⟩

/-- A name that is too long to be shown: an integer past the digit limit, or something that holds
one. -/
def IsTooLong : VarName → Prop
  | text _ => False
  | integer n => 10 ^ Numeral.digitLimit ≤ n.natAbs
  | other shown => shown = none

theorem shown?_eq_none_iff {name : VarName} : name.shown? = none ↔ name.IsTooLong := by
  cases name with
  | text t => exact iff_of_false nofun id
  | integer n => exact Numeral.decimal?_eq_none_iff
  | other shown => exact Iff.rfl

theorem resolve_letter (v : Variable) : resolve (.text [v.letter]) = .ok v := by
  rw [resolve, Variable.resolve_letter]
  rfl

theorem resolve_of_not_isLetter {name : VarName} (h : ¬name.IsLetter) :
    name.resolve = .error name.refusal := by
  cases name with
  | integer n => rfl
  | other shown => rfl
  | text t =>
    have hne (v : Variable) : [v.letter] ≠ t := fun hv =>
      h (isLetter_iff.mpr ⟨v, congrArg text hv.symm⟩)
    rw [resolve, Variable.resolve_of_ne_letter hne]
    rfl

theorem refusal_of_shown? {name : VarName} {shown : Text} (h : name.shown? = some shown) :
    name.refusal = .script (.invalidName shown) := by
  rw [refusal, h]
  rfl

theorem refusal_of_isTooLong {name : VarName} (h : name.IsTooLong) :
    name.refusal = .digitLimit := by
  rw [refusal, shown?_eq_none_iff.mpr h]
  rfl

theorem IsTooLong.not_isLetter {name : VarName} (h : name.IsTooLong) : ¬name.IsLetter := by
  rintro ⟨c, -, rfl⟩
  exact h

end VarName

namespace Store

/-- The name that a request gives, if it is about one variable. -/
def Request.name? : Request → Option VarName
  | set name _ | get name | isDefined name | validate name => some name
  | bindings | clear | describe => none

section Named

variable {name : VarName} {s : Store} {answer : Variable → Store × Except Failure Reply}

theorem onVariable_letter (v : Variable) : onVariable (.text [v.letter]) s answer = answer v := by
  rw [onVariable, VarName.resolve_letter]

theorem onVariable_of_not_isLetter (h : ¬name.IsLetter) :
    onVariable name s answer = (s, .error name.refusal) := by
  rw [onVariable, VarName.resolve_of_not_isLetter h]

/-- A request with a name that no variable can have is refused and changes nothing. -/
theorem answer_of_not_isLetter {request : Request} (hname : request.name? = some name)
    (h : ¬name.IsLetter) : s.answer request = (s, .error name.refusal) := by
  cases request with
  | set | get | isDefined | validate =>
    cases hname
    exact onVariable_of_not_isLetter h
  | bindings | clear | describe => cases hname

end Named

/-! ### The history of a letter -/

/-- The last value to which a letter has been set, and the store has not been cleared since. -/
def LastSet (history : List Request) (c : Char) (value : Int) : Prop :=
  ∃ before after, history = before ++ .set (.text [c]) value :: after ∧
    ∀ request ∈ after, request ≠ .clear ∧ ∀ other, request ≠ .set (.text [c]) other

theorem not_lastSet_nil (c : Char) (value : Int) : ¬LastSet [] c value := by
  rintro ⟨before, after, h, -⟩
  simp at h

/-- What one more request makes of the history. -/
theorem lastSet_concat {history : List Request} {request : Request} {c : Char} {value : Int} :
    LastSet (history ++ [request]) c value ↔ request = .set (.text [c]) value ∨
      LastSet history c value ∧ request ≠ .clear ∧ ∀ other, request ≠ .set (.text [c]) other := by
  constructor
  · rintro ⟨before, after, heq, hafter⟩
    rcases List.eq_nil_or_concat after with rfl | ⟨after, last, rfl⟩
    · obtain ⟨-, hlast⟩ := List.append_inj' heq rfl
      exact .inl (List.cons.inj hlast).1
    · rw [List.concat_eq_append, ← List.cons_append, ← List.append_assoc] at heq
      obtain ⟨rfl, hlast⟩ := List.append_inj' heq rfl
      obtain rfl : request = last := (List.cons.inj hlast).1
      obtain ⟨hkept, hrequest⟩ := List.forall_mem_append.mp (List.concat_eq_append ▸ hafter)
      exact .inr ⟨⟨before, after, rfl, hkept⟩, hrequest request (List.mem_singleton_self _)⟩
  · rintro (rfl | ⟨⟨before, after, rfl, hafter⟩, hrequest⟩)
    · exact ⟨history, [], rfl, nofun⟩
    · refine ⟨before, after ++ [request], by simp, List.forall_mem_append.mpr ⟨hafter, ?_⟩⟩
      exact List.forall_mem_singleton.mpr hrequest

/-- What one request makes of a store. -/
theorem get?_answer_iff {s : Store} {request : Request} {v : Variable} {value : Int} :
    (s.answer request).1.get? v = some value ↔ request = .set (.text [v.letter]) value ∨
      s.get? v = some value ∧ request ≠ .clear ∧
        ∀ other, request ≠ .set (.text [v.letter]) other := by
  -- Whatever is neither an assignment nor a clearing leaves the store alone.
  have hkept {name : VarName} {f : Variable → Except Failure Reply} :
      (onVariable name s fun w => (s, f w)).1 = s := by
    rw [onVariable]
    split <;> rfl
  cases request with
  | set name value' =>
    by_cases hname : name.IsLetter
    · obtain ⟨w, rfl⟩ := VarName.isLetter_iff.mp hname
      rw [answer, onVariable_letter, get?_set]
      by_cases hw : w = v
      · simp [hw]
      · have hne : w.letter ≠ v.letter := Variable.letter_injective.ne hw
        simp [hw, hne]
    · have hne : name ≠ .text [v.letter] := fun h => hname (VarName.isLetter_iff.mpr ⟨v, h⟩)
      rw [answer, onVariable_of_not_isLetter hname]
      simp [hne]
  | get name | isDefined name | validate name =>
    rw [answer, hkept]
    simp
  | bindings | describe => simp [answer]
  | clear => simp [answer]

/-! ### Lists of requests -/

theorem answerAll_append (s : Store) (xs ys : List Request) :
    (s.answerAll (xs ++ ys)).1 = ((s.answerAll xs).1.answerAll ys).1 := by
  induction xs generalizing s with
  | nil => rfl
  | cons x xs ih => exact ih (s.answer x).1

/-- Each request is answered by the store that those before it have left. -/
theorem getElem?_answerAll (s : Store) (requests : List Request) (i : Nat) :
    (s.answerAll requests).2[i]? =
      requests[i]?.map fun request => ((s.answerAll (requests.take i)).1.answer request).2 := by
  induction requests generalizing s i with
  | nil => rfl
  | cons request requests ih =>
    cases i with
    | zero => rfl
    | succ i => exact ih (s.answer request).1 i

/-- **A store holds the values to which the letters were last set.** -/
theorem get?_answerAll_iff {requests : List Request} {v : Variable} {value : Int} :
    (empty.answerAll requests).1.get? v = some value ↔ LastSet requests v.letter value := by
  induction requests using List.reverseRecOn with
  | nil =>
    refine iff_of_false ?_ (not_lastSet_nil _ _)
    rw [answerAll, get?_empty]
    exact nofun
  | append_singleton requests request ih =>
    rw [answerAll_append, lastSet_concat, ← ih]
    exact get?_answer_iff

/-! ### Bindings -/

/-- The letters in the order in which bindings are listed. -/
def alphabet : List Char := "abcdefghijklmnopqrstuvwxyzABCDEFGHIJKLMNOPQRSTUVWXYZ".toList

theorem map_letter_all : Variable.all.map Variable.letter = alphabet := by
  decide +kernel

theorem mem_bindings_iff {s : Store} {v : Variable} {value : Int} :
    (v, value) ∈ s.bindings ↔ s.get? v = some value := by
  rw [bindings, List.mem_filterMap]
  constructor
  · rintro ⟨w, -, h⟩
    obtain ⟨x, hx, heq⟩ := Option.map_eq_some_iff.mp h
    cases heq
    exact hx
  · intro h
    exact ⟨v, List.mem_finRange v, by rw [h]; rfl⟩

theorem bindings_sublist (s : Store) : (s.bindings.map (·.1.letter)).Sublist alphabet := by
  have hsublist (vs : List Variable) :
      ((vs.filterMap fun v => (s.get? v).map fun value => (v, value)).map (·.1.letter)).Sublist
        (vs.map Variable.letter) := by
    induction vs with
    | nil => exact .slnil
    | cons v vs ih =>
      cases hv : s.get? v with
      | none =>
        rw [List.filterMap_cons_none (by rw [hv]; rfl)]
        exact ih.cons v.letter
      | some value =>
        rw [List.filterMap_cons_some (by rw [hv]; rfl)]
        exact ih.cons_cons v.letter
  rw [← map_letter_all]
  exact hsublist Variable.all

/-- Values of a store, set in another one that has no other values, make the two agree. -/
theorem get?_foldl_set {s t : Store} {vs : List Variable} {w : Variable}
    (h : t.get? w = s.get? w ∨ w ∈ vs ∧ t.get? w = none) :
    ((vs.filterMap fun v => (s.get? v).map fun value => (v, value)).foldl
      (fun t b => t.set b.1 b.2) t).get? w = s.get? w := by
  induction vs generalizing t with
  | nil => exact h.resolve_right fun hmem => List.not_mem_nil hmem.1
  | cons v vs ih =>
    cases hv : s.get? v with
    | none =>
      rw [List.filterMap_cons_none (by rw [hv]; rfl)]
      refine ih (h.elim .inl fun ⟨hmem, hnone⟩ => ?_)
      rcases List.mem_cons.mp hmem with rfl | hmem
      · exact .inl (hnone.trans hv.symm)
      · exact .inr ⟨hmem, hnone⟩
    | some value =>
      rw [List.filterMap_cons_some (by rw [hv]; rfl), List.foldl_cons]
      refine ih ?_
      rw [get?_set]
      by_cases hw : v = w
      · exact .inl (by rw [if_pos hw, ← hw, hv])
      · rw [if_neg hw]
        exact h.imp_right
          (And.imp_left fun hmem => (List.mem_cons.mp hmem).resolve_left (Ne.symm hw))

/-- **The bindings of a store, set one after the other, make it again.** -/
theorem ofBindings_bindings (s : Store) : ofBindings s.bindings = s := by
  ext1 v
  exact get?_foldl_set (.inr ⟨List.mem_finRange v, get?_empty v⟩)

/-! ### Answers -/

/-- What the answer to a request is, given the requests before it; the description of a store, which
is made from its bindings, is left out. -/
inductive Answers (history : List Request) : Request → Except Failure Reply → Prop where
  /-- A name that no variable can have is refused, and shown. -/
  | invalid {request : Request} {name : VarName} {shown : Text} :
      request.name? = some name → ¬name.IsLetter → name.shown? = some shown →
      Answers history request (.error (.script (.invalidName shown)))
  /-- A name that cannot be shown is refused for that reason. -/
  | tooLong {request : Request} {name : VarName} :
      request.name? = some name → name.IsTooLong → Answers history request (.error .digitLimit)
  | set {c : Char} {value : Int} :
      isPlainLetter c = true → Answers history (.set (.text [c]) value) (.ok (.value value))
  | get {c : Char} {value : Int} :
      isPlainLetter c = true → LastSet history c value →
      Answers history (.get (.text [c])) (.ok (.value value))
  | undefined {c : Char} :
      isPlainLetter c = true → (∀ value, ¬LastSet history c value) →
      Answers history (.get (.text [c])) (.error (.script (.undefinedVariable c)))
  | isDefined {c : Char} {b : Bool} :
      isPlainLetter c = true → (b = true ↔ ∃ value, LastSet history c value) →
      Answers history (.isDefined (.text [c])) (.ok (.truth b))
  /-- The name is given back. -/
  | validate {c : Char} {v : Variable} :
      v.letter = c → Answers history (.validate (.text [c])) (.ok (.name v))
  /-- The letters that have a value are listed with it, in alphabetical order. -/
  | bindings {bs : List (Variable × Int)} :
      (bs.map (·.1.letter)).Sublist alphabet →
      (∀ v value, (v, value) ∈ bs ↔ LastSet history v.letter value) →
      Answers history .bindings (.ok (.bindings bs))
  | clear : Answers history .clear (.ok .done)

/-- A store that holds the values of a history answers as the history demands. -/
theorem answers_answer {history : List Request} {s : Store}
    (h : ∀ v value, s.get? v = some value ↔ LastSet history v.letter value) {request : Request}
    (hrequest : request ≠ .describe) : Answers history request (s.answer request).2 := by
  by_cases hinvalid : ∃ name, request.name? = some name ∧ ¬name.IsLetter
  · obtain ⟨name, hname, hletter⟩ := hinvalid
    rw [answer_of_not_isLetter hname hletter]
    cases hshown : name.shown? with
    | some shown =>
      rw [VarName.refusal_of_shown? hshown]
      exact .invalid hname hletter hshown
    | none =>
      have hlong : name.IsTooLong := VarName.shown?_eq_none_iff.mp hshown
      rw [VarName.refusal_of_isTooLong hlong]
      exact .tooLong hname hlong
  · have hvalid {name : VarName} (hname : request.name? = some name) :
        ∃ v : Variable, name = .text [v.letter] :=
      VarName.isLetter_iff.mp (by_contra fun hletter => hinvalid ⟨name, hname, hletter⟩)
    cases request with
    | set name value =>
      obtain ⟨v, rfl⟩ := hvalid rfl
      rw [answer, onVariable_letter]
      exact .set v.isPlainLetter_letter
    | get name =>
      obtain ⟨v, rfl⟩ := hvalid rfl
      rw [answer, onVariable_letter, Store.get]
      cases hv : s.get? v with
      | some value => exact .get v.isPlainLetter_letter ((h v value).mp hv)
      | none =>
        refine .undefined v.isPlainLetter_letter fun value hvalue => ?_
        rw [(h v value).mpr hvalue] at hv
        cases hv
    | isDefined name =>
      obtain ⟨v, rfl⟩ := hvalid rfl
      rw [answer, onVariable_letter]
      refine .isDefined v.isPlainLetter_letter ?_
      simp only [Option.isSome_iff_exists, h]
    | validate name =>
      obtain ⟨v, rfl⟩ := hvalid rfl
      rw [answer, onVariable_letter]
      exact .validate rfl
    | bindings =>
      exact .bindings s.bindings_sublist fun v value => mem_bindings_iff.trans (h v value)
    | clear => exact .clear
    | describe => exact absurd rfl hrequest

/-- **A store is the partial map from letters to the values they were last set to.** In any list of
requests to a new store, each is answered as the requests before it demand, whatever names they
give. In the end a slot is marked exactly if its letter has been set since the store was cleared,
and holds zero otherwise; a name that is not exactly one ASCII letter is refused by every request
and changes nothing, as an invalid name unless it is too long to be shown; and the bindings, set in
order in a new store, make the same store. -/
theorem answerAll_remembers (requests : List Request) :
    let s := (empty.answerAll requests).1
    (∀ i request, requests[i]? = some request → request ≠ .describe →
      ∃ reply, (empty.answerAll requests).2[i]? = some reply ∧
        Answers (requests.take i) request reply) ∧
    (∀ v : Variable, s.defined.get v = true ↔ ∃ value, LastSet requests v.letter value) ∧
    (∀ v, s.defined.get v = false → s.values.get v = 0) ∧
    (∀ request name, request.name? = some name → ¬name.IsLetter →
      (¬name.IsTooLong → ∃ shown, name.shown? = some shown ∧
        s.answer request = (s, .error (.script (.invalidName shown)))) ∧
      (name.IsTooLong → s.answer request = (s, .error .digitLimit))) ∧
    ofBindings s.bindings = s := by
  intro s
  refine ⟨fun i request hi hrequest => ?_, fun v => ?_, s.value_eq_zero,
    fun request name hname hletter => ?_, s.ofBindings_bindings⟩
  · rw [getElem?_answerAll, hi]
    exact ⟨_, rfl, answers_answer (fun v value => get?_answerAll_iff) hrequest⟩
  · have hdefined : s.defined.get v = (s.get? v).isSome := (isSome_get? s v).symm
    rw [hdefined, Option.isSome_iff_exists]
    exact exists_congr fun value => get?_answerAll_iff
  · rw [answer_of_not_isLetter hname hletter]
    refine ⟨fun hshort => ?_, fun hlong => by rw [VarName.refusal_of_isTooLong hlong]⟩
    obtain ⟨shown, hshown⟩ :=
      Option.ne_none_iff_exists'.mp (mt VarName.shown?_eq_none_iff.mp hshort)
    exact ⟨shown, hshown, by rw [VarName.refusal_of_shown? hshown]⟩

/-- Case matters, clearing forgets, and a run of letters is no name: what is left is `a` with the
value zero, which is not the same as no value. -/
theorem answerAll_remembers_cleared :
    let requests : List Request :=
      [.set (.text ['A']) 2, .set (.text ['b']) 3, .clear, .set (.text ['a', 'b']) 4,
        .set (.text ['a']) 0, .get (.text ['A']), .bindings]
    let s := (empty.answerAll requests).1
    Answers (requests.take 5) (.get (.text ['A'])) (.error (.script (.undefinedVariable 'A'))) ∧
    Answers (requests.take 6) .bindings (.ok (.bindings [(0, 0)])) ∧
    s.answer (.get (.text [])) = (s, .error (.script (.invalidName (Text.ofString "''")))) := by
  have h := answerAll_remembers
    [.set (.text ['A']) 2, .set (.text ['b']) 3, .clear, .set (.text ['a', 'b']) 4,
      .set (.text ['a']) 0, .get (.text ['A']), .bindings]
  obtain ⟨_, hget, hA⟩ := h.1 5 _ rfl nofun
  obtain ⟨_, hbindings, ha⟩ := h.1 6 _ rfl nofun
  cases hget
  cases hbindings
  have hempty : ¬(VarName.text []).IsLetter := by
    rintro ⟨c, -, hc⟩
    cases hc
  obtain ⟨shown, hshown, hanswer⟩ := (h.2.2.2.1 (.get (.text [])) (.text []) rfl hempty).1 id
  cases hshown
  exact ⟨hA, ha, hanswer⟩

/-- An integer of one digit more than the limit is not one ASCII letter, and yet the request that
gives it for a name is not refused as one with an invalid name. -/
theorem answer_tooLong :
    let name : VarName := .integer (10 ^ Numeral.digitLimit : Nat)
    ¬name.IsLetter ∧ empty.answer (.get name) = (empty, .error .digitLimit) ∧
      ∀ shown, (empty.answer (.get name)).2 ≠ .error (.script (.invalidName shown)) := by
  intro name
  have hlong : name.IsTooLong := Nat.le_refl _
  have hanswer : empty.answer (.get name) = (empty, .error .digitLimit) := by
    rw [← VarName.refusal_of_isTooLong hlong]
    exact answer_of_not_isLetter rfl hlong.not_isLetter
  refine ⟨hlong.not_isLetter, hanswer, fun shown h => ?_⟩
  rw [hanswer] at h
  cases h

end Store

end LineScript
