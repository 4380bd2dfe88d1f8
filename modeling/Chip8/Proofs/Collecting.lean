/-
  Chip8/Proofs/Collecting.lean
  ============================
  **What overrides of plain names collect** — one entry for each name, which holds the value that
  the name was given last.

  A key without points and brackets is a single name, in which backslashes may have been dropped
  (`Key.parts_of_flat`).  A scalar under such a name takes the place of what was there, whatever
  that was, and nothing else changes; so a list of such overrides is collected into entries that
  are read off the list from its end (`collect_of_allHeld`).  Days and times are the scalars that
  are refused, and one of them is enough for the whole list to fail (`collect_of_givesTime`).

  A text that looks like a template counts as such a scalar if it is a template and the process can
  read it.
-/
import Chip8.Settings.Load

namespace Chip8

/-! ### Entries under texts -/

namespace Yaml.Entries

/-- The keys are texts, each of them with one entry. -/
structure Named (es : Entries) : Prop where
  texts : ∀ e ∈ es, ∃ t, e.1 = .str t
  distinct : (es.map Prod.fst).Nodup

variable {es : Entries} {n t : String} {v w : Value}

theorem Named.nil : Named [] := ⟨nofun, .nil⟩

theorem get?_cons (u t : String) (w : Value) (es : Entries) :
    get? ((.str u, w) :: es) (.str t) = if u = t then some w else get? es (.str t) := by
  unfold get?
  rw [List.find?_cons, Scalar.sameKey_str]
  by_cases h : u = t
  · simp [h]
  · rw [if_neg h, beq_eq_false_iff_ne.2 h]

theorem put_cons (u n : String) (v w : Value) (es : Entries) :
    put (.str n) v ((.str u, w) :: es) =
      if u = n then (.str u, v) :: es else (.str u, w) :: put (.str n) v es := by
  rw [put, Scalar.sameKey_str]
  by_cases h : u = n
  · simp [h]
  · simp [h]

/-- Another key keeps its value. -/
theorem get?_put_of_ne (htexts : ∀ e ∈ es, ∃ t, e.1 = .str t) (h : t ≠ n) :
    get? (put (.str n) v es) (.str t) = get? es (.str t) := by
  induction es with
  | nil => exact (get?_cons n t v []).trans (if_neg h.symm)
  | cons e es ih =>
    obtain ⟨k, w⟩ := e
    obtain ⟨u, rfl⟩ := htexts _ List.mem_cons_self
    have hrest := ih fun e he => htexts e (List.mem_cons_of_mem _ he)
    rw [put_cons]
    by_cases hun : u = n
    · rw [if_pos hun, get?_cons, get?_cons, if_neg fun hut => h (hut.symm.trans hun),
        if_neg fun hut => h (hut.symm.trans hun)]
    · rw [if_neg hun, get?_cons, get?_cons, hrest]

theorem key_of_mem_put {e : Scalar × Value} (h : e ∈ put (.str n) v es) :
    e.1 = .str n ∨ e.1 ∈ es.map Prod.fst := by
  induction es with
  | nil => exact Or.inl (congrArg Prod.fst (List.mem_singleton.1 h))
  | cons a es ih =>
    obtain ⟨k, w⟩ := a
    rw [put] at h
    split at h
    · rcases List.mem_cons.1 h with rfl | h
      · exact Or.inr List.mem_cons_self
      · exact Or.inr (List.mem_cons_of_mem _ (List.mem_map_of_mem h))
    · rcases List.mem_cons.1 h with rfl | h
      · exact Or.inr List.mem_cons_self
      · exact (ih h).imp_right (List.mem_cons_of_mem _)

theorem Named.put (h : Named es) (n : String) (v : Value) : Named (put (.str n) v es) where
  texts e he := by
    rcases key_of_mem_put he with hkey | hkey
    · exact ⟨n, hkey⟩
    · obtain ⟨a, ha, hkey⟩ := List.mem_map.1 hkey
      exact hkey ▸ h.texts a ha
  distinct := by
    obtain ⟨htexts, hdistinct⟩ := h
    induction es with
    | nil => exact List.nodup_cons.2 ⟨List.not_mem_nil, .nil⟩
    | cons a es ih =>
      obtain ⟨k, w⟩ := a
      obtain ⟨u, rfl⟩ := htexts _ List.mem_cons_self
      obtain ⟨hfresh, hrest⟩ := List.nodup_cons.1 hdistinct
      rw [put_cons]
      by_cases hun : u = n
      · rw [if_pos hun]
        exact hdistinct
      · rw [if_neg hun]
        refine List.nodup_cons.2 ⟨fun hmem => ?_, ih (fun e he => htexts e (.tail _ he)) hrest⟩
        obtain ⟨e, he, hkey⟩ := List.mem_map.1 hmem
        rcases key_of_mem_put he with hnew | hold
        · exact hun (Scalar.str.inj (hkey.symm.trans hnew))
        · exact hfresh (hkey ▸ hold)

theorem Named.mem_iff (h : Named es) : (.str t, v) ∈ es ↔ get? es (.str t) = some v := by
  obtain ⟨htexts, hdistinct⟩ := h
  induction es with
  | nil => exact ⟨nofun, nofun⟩
  | cons a es ih =>
    obtain ⟨k, w⟩ := a
    obtain ⟨u, rfl⟩ := htexts _ List.mem_cons_self
    obtain ⟨hfresh, hrest⟩ := List.nodup_cons.1 hdistinct
    have hmem := ih (fun e he => htexts e (.tail _ he)) hrest
    rw [get?_cons, List.mem_cons]
    by_cases hut : u = t
    · subst hut
      rw [if_pos rfl, Option.some.injEq]
      constructor
      · rintro (heq | hold)
        · exact ((Prod.mk.inj heq).2).symm
        · exact absurd (List.mem_map_of_mem (f := Prod.fst) hold) hfresh
      · rintro rfl
        exact Or.inl rfl
    · rw [if_neg hut, ← hmem]
      constructor
      · rintro (heq | hold)
        · exact absurd (Scalar.str.inj (Prod.mk.inj heq).1).symm hut
        · exact hold
      · exact Or.inr

end Yaml.Entries

namespace Settings

open Chip8.Yaml (Entries Scalar Value)

/-! ### Faults that are told -/

namespace Fault

/-- The fault is one that is reported of settings, or an integer would be too long as text. -/
def Told (f : Fault) : Prop := f.isRefusal = true ∨ f = .overlong

theorem told_place {f : Fault} (h : f.isRefusal = true) (n : Note) : (f.place n).Told := by
  unfold place
  split
  · exact Or.inl h
  · cases h
  · cases h
  · split
    · refine Or.inl ?_
      simp only [isRefusal, h, Bool.true_or]
    · exact Or.inr rfl

end Fault

/-! ### Keys of one name -/

namespace Key

variable {key : List Char}

/-- Nothing was dropped from a key in which nothing special is left. -/
theorem marks_of_not_special (h : ∀ m ∈ marks key, isSpecial m.1 = false) :
    marks key = key.map fun c => (c, false) := by
  fun_induction marks key with
  | case1 | case2 => rfl
  | case3 c d r hescaped ih =>
    have hd := h (d, true) List.mem_cons_self
    rw [hescaped.2] at hd
    cases hd
  | case4 c d r hordinary ih =>
    rw [ih fun m hm => h m (List.mem_cons_of_mem _ hm)]
    rfl

theorem eq_of_name_eq {n : String} (hn : n.toList.any isSpecial = false) (h : name key = n) :
    key = n.toList := by
  subst h
  rw [name, String.toList_ofList, List.any_map, List.any_eq_false] at hn
  have hmarks := marks_of_not_special fun m hm => Bool.eq_false_iff.2 (hn m hm)
  rw [name, hmarks, String.toList_ofList, List.map_map]
  exact (List.map_id key).symm

/-- The name of a field is written as it is. -/
theorem name_eq_field_iff (f : Field) : name key = f.name ↔ key = f.name.toList := by
  constructor
  · exact eq_of_name_eq (by cases f <;> decide)
  · rintro rfl
    have hordinary : f.name.toList.all isOrdinary = true := by cases f <;> decide
    rw [name_of_ordinary hordinary, String.ofList_toList]

end Key

/-! ### Scalars under names -/

/-- A text that looks like a template is one that the process can read. -/
def Formed (p : Loader) (s : Scalar) : Prop :=
  ∀ t, s = .str t → Template.isOpened t.toList = true →
    p.Reads t ∧ ∃ template, Template.read t = .ok template

/-- Days and times, which collections do not hold. -/
def isTime : Scalar → Bool
  | .date | .moment => true
  | _ => false

variable {p : Loader}

theorem check_of_formed {s : Scalar} (hformed : Formed p s) (htime : isTime s = false)
    (site : Site) (key : Scalar) (depth : Nat) :
    Holding.check p site key depth (.scalar s) = .ok () := by
  have hleaf : Holding.checkLeaf p (.scalar s) = .ok () := by
    cases s with
    | date | moment => cases htime
    | null | bool | int | float | bytes => rfl
    | str t =>
      simp only [Holding.checkLeaf, Holding.checkText]
      cases hopened : Template.isOpened t.toList with
      | false => rfl
      | true =>
        obtain ⟨⟨hroom, -⟩, template, hread⟩ := hformed t rfl hopened
        simp only [hroom, hread, Bool.not_true, Bool.false_or, Bool.false_eq_true, if_false, ite_self]
  rw [Holding.check_scalar, hleaf]
  rfl

/-- A day or a time is refused. -/
theorem check_of_isTime {s : Scalar} (h : isTime s = true) (p : Loader) (site : Site)
    (key : Scalar) (depth : Nat) :
    ∃ fault, Holding.check p site key depth (.scalar s) = .error fault ∧ fault.Told := by
  rw [Holding.check_scalar]
  cases s with
  | date | moment => exact ⟨_, rfl, Fault.told_place rfl _⟩
  | null | bool | int | float | str | bytes => cases h

/-! ### Overrides of names -/

namespace Override

variable {text : String} {s : Scalar}

/-- The key of an override, as it is written. -/
def keyOf (text : String) : List Char := (split text.toList).1

/-- The value of an override. -/
def valueOf (p : Loader) (text : String) : Except Fault Value := readValue p (split text.toList).2

/-- The override gives a plain name a scalar: its key is not empty and leads into no collection,
    and its value is read as the scalar, which is no malformed template and none that the process
    cannot read. -/
structure Assigns (p : Loader) (text : String) (s : Scalar) : Prop where
  named : keyOf text ≠ []
  flat : ∀ c ∈ keyOf text, c ≠ '.' ∧ c ≠ '['
  valueOf_eq : valueOf p text = .ok (.scalar s)
  formed : Formed p s

/-- The scalar that the override gives a plain name, if it does. -/
def assigned? (p : Loader) (text : String) : Option Scalar :=
  if !(keyOf text).isEmpty && (keyOf text).all (fun c => c != '.' && c != '[') then
    match valueOf p text with
    | .ok (.scalar (.str t)) =>
      if Template.isOpened t.toList = true ∧
          ¬ (p.Reads t ∧ (Template.read t).toOption.isSome = true) then none
      else some (.str t)
    | .ok (.scalar s) => some s
    | _ => none
  else none

theorem assigns_of_assigned? (h : assigned? p text = some s) : Assigns p text s := by
  unfold assigned? at h
  split at h
  case isFalse => cases h
  next hkey =>
  simp only [Bool.and_eq_true, Bool.not_eq_true', List.isEmpty_eq_false_iff, List.all_eq_true,
    bne_iff_ne] at hkey
  split at h
  · next t hvalue =>
    split at h
    · cases h
    · next hformed =>
      cases h
      refine ⟨hkey.1, hkey.2, hvalue, fun t' ht hopened => ?_⟩
      cases ht
      obtain ⟨hreads, hsome⟩ := Decidable.not_not.1 fun hnot => hformed ⟨hopened, hnot⟩
      refine ⟨hreads, ?_⟩
      cases hread : Template.read t with
      | ok template => exact ⟨template, rfl⟩
      | error e =>
        rw [hread] at hsome
        cases hsome
  · next hnot hvalue =>
    cases h
    exact ⟨hkey.1, hkey.2, hvalue, fun t ht => absurd ht (hnot t)⟩
  · cases h

/-- An override whose key leads into no collection is one of a plain name. -/
theorem read_eq_of_flat {v : Value} (hflat : ∀ c ∈ keyOf text, c ≠ '.' ∧ c ≠ '[')
    (hvalue : valueOf p text = .ok v) : read p text = .ok ⟨[Key.name (keyOf text)], v⟩ := by
  have hparts := Key.parts_of_flat hflat
  unfold keyOf at hparts
  unfold valueOf at hvalue
  simp only [read, hvalue, hparts]
  rfl

theorem Assigns.read_eq (h : Assigns p text s) :
    read p text = .ok ⟨[Key.name (keyOf text)], .scalar s⟩ :=
  read_eq_of_flat h.flat h.valueOf_eq

theorem Assigns.unique {s' : Scalar} (h : Assigns p text s) (h' : Assigns p text s') : s = s' := by
  have hvalue := h.valueOf_eq.symm.trans h'.valueOf_eq
  exact Value.scalar.inj (Except.ok.inj hvalue)

section

variable {es : Entries} (htexts : ∀ e ∈ es, ∃ t, e.1 = .str t)
include htexts

theorem Assigns.apply_eq (h : Assigns p text s) (htime : isTime s = false) :
    (read p text >>= apply p (.dict es)) =
      .ok (.dict (Entries.put (.str (Key.name (keyOf text))) (.scalar s) es)) := by
  rw [h.read_eq]
  refine (Tree.put_scalar p htexts _ s).trans ?_
  rw [check_of_formed h.formed htime]
  rfl

theorem Assigns.apply_eq_error (h : Assigns p text s) (htime : isTime s = true) :
    ∃ fault, (read p text >>= apply p (.dict es)) = .error fault ∧ fault.Told := by
  obtain ⟨fault, hcheck, htold⟩ := check_of_isTime htime p
    ((Tree.scope (.dict es)).siteAt []) (.str (Key.name (keyOf text))) p.collections
  refine ⟨fault, ?_, htold⟩
  rw [h.read_eq]
  refine (Tree.put_scalar p htexts _ s).trans ?_
  rw [hcheck]
  rfl

end

end Override

/-- The last override of a key. -/
def lastOf? (texts : List String) (key : List Char) : Option String :=
  texts.reverse.find? fun text => Override.keyOf text == key

/-- The last override of a name, which may be written in several ways. -/
def lastNamed? (texts : List String) (name : String) : Option String :=
  texts.reverse.find? fun text => Key.name (Override.keyOf text) == name

theorem lastNamed?_field (texts : List String) (f : Field) :
    lastNamed? texts f.name = lastOf? texts f.name.toList := by
  have hsame : ∀ text, (Key.name (Override.keyOf text) == f.name) =
      (Override.keyOf text == f.name.toList) := by
    intro text
    rw [Bool.eq_iff_iff, beq_iff_eq, beq_iff_eq, Key.name_eq_field_iff]
  simp only [lastNamed?, lastOf?, hsame]

/-- Overrides of plain names by scalars. -/
def AllAssign (p : Loader) (texts : List String) : Prop :=
  ∀ text ∈ texts, ∃ s, Override.Assigns p text s

/-- Overrides of plain names by scalars that collections hold. -/
def AllHeld (p : Loader) (texts : List String) : Prop :=
  ∀ text ∈ texts, ∃ s, Override.Assigns p text s ∧ isTime s = false

/-- A day or a time is given to a name. -/
def GivesTime (p : Loader) (texts : List String) : Prop :=
  ∃ text ∈ texts, ∃ s, Override.Assigns p text s ∧ isTime s = true

section

variable {texts : List String}

theorem AllHeld.allAssign (h : AllHeld p texts) : AllAssign p texts := fun text htext =>
  (h text htext).imp fun _ => And.left

theorem AllHeld.not_givesTime (h : AllHeld p texts) : ¬ GivesTime p texts := by
  rintro ⟨text, htext, s, hassigns, htime⟩
  obtain ⟨s', hassigns', htime'⟩ := h text htext
  rw [hassigns.unique hassigns', htime'] at htime
  cases htime

theorem AllAssign.allHeld (h : AllAssign p texts) (htime : ¬ GivesTime p texts) : AllHeld p texts := by
  intro text htext
  obtain ⟨s, hassigns⟩ := h text htext
  exact ⟨s, hassigns, Bool.eq_false_iff.2 fun hs => htime ⟨text, htext, s, hassigns, hs⟩⟩

/-- Added to any entries, each name has the value that it was given last, and a name that is not
    mentioned keeps its value. -/
theorem foldlM_apply_of_allHeld (h : AllHeld p texts) {es : Entries} (hes : Entries.Named es) :
    ∃ es', texts.foldlM (fun root text => Override.read p text >>= Override.apply p root) (.dict es) =
        .ok (.dict es') ∧ Entries.Named es' ∧
      ∀ n, Entries.get? es' (.str n) = (lastNamed? texts n).elim (Entries.get? es (.str n))
        fun text => (Override.valueOf p text).toOption := by
  induction texts generalizing es with
  | nil => exact ⟨es, rfl, hes, fun _ => rfl⟩
  | cons text texts ih =>
    obtain ⟨s, hassigns, htime⟩ := h text List.mem_cons_self
    obtain ⟨es', hrest, hnamed, hget⟩ := ih (fun t ht => h t (List.mem_cons_of_mem _ ht))
      (hes.put (Key.name (Override.keyOf text)) (.scalar s))
    refine ⟨es', ?_, hnamed, fun n => ?_⟩
    · rw [List.foldlM_cons, hassigns.apply_eq hes.texts htime]
      exact hrest
    · rw [hget n, lastNamed?, lastNamed?, List.reverse_cons, List.find?_append]
      cases texts.reverse.find? fun t => Key.name (Override.keyOf t) == n with
      | some t => rfl
      | none =>
        by_cases hn : Key.name (Override.keyOf text) = n
        · subst hn
          simp [Entries.get?_put, Scalar.sameKey_str, hassigns.valueOf_eq, Except.toOption]
        · simp [hn, Entries.get?_put_of_ne hes.texts (Ne.symm hn)]

/-- **Each name has the value that it was given last.** -/
theorem collect_of_allHeld (h : AllHeld p texts) :
    ∃ es, collect p texts = .ok es ∧ Entries.Named es ∧
      ∀ n, Entries.get? es (.str n) =
        (lastNamed? texts n).bind fun text => (Override.valueOf p text).toOption := by
  obtain ⟨es, hcollect, hnamed, hget⟩ := foldlM_apply_of_allHeld h .nil
  refine ⟨es, ?_, hnamed, fun n => ?_⟩
  · rw [collect]
    simp only [hcollect]
    rfl
  · rw [hget n]
    cases lastNamed? texts n <;> rfl

/-- A template that the process cannot read makes the list fail where it stands. -/
theorem collect_append_of_not_reads (h : AllHeld p texts) {text t : String}
    (hflat : ∀ c ∈ Override.keyOf text, c ≠ '.' ∧ c ≠ '[')
    (hvalue : Override.valueOf p text = .ok (.scalar (.str t)))
    (hopened : Template.isOpened t.toList = true) (hsimple : Template.isSimple t.toList = false)
    (hreads : p.reads p.room t = false) (later : List String) :
    collect p (texts ++ text :: later) = .error .tooDeep := by
  obtain ⟨es, hcollect, hes, -⟩ := foldlM_apply_of_allHeld h .nil
  have hcheck : ∀ site key, Holding.check p site key p.collections (.scalar (.str t)) =
      .error .tooDeep := by
    intro site key
    rw [Holding.check_scalar]
    simp only [Holding.checkLeaf, Holding.checkText, hopened, hsimple, hreads]
    rfl
  have happly : (Override.read p text >>= Override.apply p (.dict es)) = .error .tooDeep := by
    rw [Override.read_eq_of_flat hflat hvalue]
    refine (Tree.put_scalar p hes.texts _ _).trans ?_
    rw [hcheck]
    rfl
  have hlater : (text :: later).foldlM
      (fun root text => Override.read p text >>= Override.apply p root) (.dict es) =
        .error .tooDeep := by
    rw [List.foldlM_cons, happly]
    rfl
  have hall : (texts ++ text :: later).foldlM
      (fun root text => Override.read p text >>= Override.apply p root) (.dict []) =
        .error .tooDeep := by
    rw [List.foldlM_append, hcollect]
    exact hlater
  simp only [collect, hall]
  rfl

/-- A day or a time makes the whole list fail. -/
theorem collect_of_givesTime (h : AllAssign p texts) (htime : GivesTime p texts) :
    ∃ fault, collect p texts = .error fault ∧ fault.Told := by
  have hfold : ∀ es : Entries, Entries.Named es → ∃ fault,
      texts.foldlM (fun root text => Override.read p text >>= Override.apply p root) (.dict es) =
        .error fault ∧ fault.Told := by
    induction texts with
    | nil =>
      obtain ⟨text, htext, -⟩ := htime
      cases htext
    | cons text texts ih =>
      intro es hes
      obtain ⟨s, hassigns⟩ := h text List.mem_cons_self
      rw [List.foldlM_cons]
      cases hs : isTime s with
      | true =>
        obtain ⟨fault, happly, htold⟩ := hassigns.apply_eq_error hes.texts hs
        refine ⟨fault, ?_, htold⟩
        rw [happly]
        rfl
      | false =>
        have hrest : GivesTime p texts := by
          obtain ⟨text', htext', s', hassigns', hs'⟩ := htime
          rcases List.mem_cons.1 htext' with rfl | htext'
          · rw [hassigns.unique hassigns', hs'] at hs
            cases hs
          · exact ⟨text', htext', s', hassigns', hs'⟩
        rw [hassigns.apply_eq hes.texts hs]
        exact ih (fun t ht => h t (List.mem_cons_of_mem _ ht)) hrest _ (hes.put _ _)
  obtain ⟨fault, hcollect, htold⟩ := hfold [] .nil
  refine ⟨fault, ?_, htold⟩
  rw [collect]
  simp only [hcollect]
  rfl

end

end Settings

end Chip8
