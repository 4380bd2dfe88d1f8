/-
  Chip8/Proofs/Precedence.lean
  ============================
  **Only the last value of each key counts** — lists of overrides that give every key the same
  last value load the same settings or both fail, in whatever order they stand and whatever was
  given before.

  What is collected is the same but for the order of the entries.  Taking an entry over depends on
  the entry alone (`giveKey_of_suits`, `giveKey_of_not_suits`), and changes its own field only; so
  either all entries of both lists suit their fields, and make the same draft, or both lists have
  one that does not.  With the same draft everything that comes later is the same.

  A day or a time is refused when it is collected, before a later override can take its place.  So
  a list with one fails whatever its last values are, and is to be compared with such lists only.
  So does a template that is nested more deeply than the process can read, but not with a fault
  of the settings; the lists have none.
-/
import Chip8.Proofs.Collecting

namespace Chip8.Settings

open Chip8.Yaml (Entries Scalar Value)

/-! ### Faults that are told -/

namespace Fault

theorem isRefusal_of_isResolution {f : Fault} (h : f.isResolution = true) : f.isRefusal = true := by
  induction f with
  | about n f ih =>
    have hf := ih h
    simp only [isRefusal, hf, Bool.true_or]
  | unknownReference | referenceBeyondRoot | unsetReference | unsetResult | circular | enclosing
  | badPiece | badName | unknownFunction | unsuitableResult | raised => rfl
  | _ => cases h

theorem isRefusal_asResolution (f : Fault) : f.asResolution.isRefusal = true := by
  unfold asResolution
  cases h : f.isResolution with
  | true => exact isRefusal_of_isResolution h
  | false => rfl

end Fault

/-- A failure that is reported of settings, unless an integer would be too long as text. -/
def LoadError.Told (e : LoadError) : Prop :=
  e.report?.isSome = true ∨ e = .fault .overlong ∨ e = .overlongComplaint

theorem LoadError.told_fault {f : Fault} (h : f.Told) : (LoadError.fault f).Told := by
  rcases h with h | rfl
  · refine Or.inl ?_
    simp only [report?, h, if_true, Option.isSome_some]
  · exact Or.inr (Or.inl rfl)

/-! ### Taking values over -/

namespace Draft

variable {d : Draft} {f : Field} {v : Value} {es : Entries}

/-- A field takes a value: the mark of a value to come, a template, or a value of its kind. -/
def Suits (f : Field) (v : Value) : Prop :=
  isUnset v = true ∨ (template? v).isSome = true ∨ (f.kind.ofValue? v).isSome = true

/-- What a field is to hold after a value was taken over. -/
def taken (f : Field) (v : Value) (old : Entry f.kind) : Entry f.kind :=
  if isUnset v then old
  else match template? v with
    | some s => .template s
    | none => (f.kind.ofValue? v).elim old .value

theorem put_eq_self (d : Draft) (f : Field) : d.put f (d f) = d := by
  funext g
  by_cases h : g = f
  · subst h
    exact put_self d g (d g)
  · exact put_of_ne d (d f) h

theorem give_of_suits (h : Suits f v) (d : Draft) : d.give f v = .ok (d.put f (taken f v (d f))) := by
  unfold give taken
  cases hunset : isUnset v with
  | true => rw [if_pos rfl, if_pos rfl, put_eq_self]
  | false =>
    rw [if_neg Bool.false_ne_true, if_neg Bool.false_ne_true]
    cases htemplate : template? v with
    | some s => rfl
    | none =>
      obtain ⟨x, hx⟩ : ∃ x, f.kind.ofValue? v = some x := by
        rw [Suits, hunset, htemplate] at h
        simpa [Option.isSome_iff_exists] using h
      simp only [hx, Option.elim_some]

theorem give_of_not_suits (h : ¬ Suits f v) (d : Draft) : d.give f v = .error (misfit f v) := by
  simp only [Suits, not_or, Bool.not_eq_true, Option.isSome_eq_false_iff,
    Option.isNone_iff_eq_none] at h
  simp only [give, h.1, h.2.1, h.2.2, Bool.false_eq_true, if_false]

theorem told_misfit (f : Field) (v : Value) : (misfit f v).Told := by
  unfold misfit
  apply Fault.told_place
  split <;> rfl

/-- The name of an entry is that of a field, and the field takes its value. -/
def Accepts (e : Scalar × Value) : Prop := ∃ f : Field, e.1 = .str f.name ∧ Suits f e.2

theorem giveKey_of_suits (h : Suits f v) (d : Draft) :
    d.giveKey (.str f.name) v = .ok (d.put f (taken f v (d f))) := by
  have hname : Field.ofName? ((Scalar.str f.name).text?.getD "") = some f := Field.ofName?_name f
  simp only [giveKey, hname, give_of_suits h]

/-- An entry that does not suit is not taken over, for a reason that is told. -/
theorem giveKey_of_not_accepts {n : String} (h : ¬ Accepts (.str n, v)) (d : Draft) :
    ∃ fault, d.giveKey (.str n) v = .error fault ∧ fault.Told := by
  have htext : (Scalar.str n).text?.getD "" = n := rfl
  simp only [giveKey, htext]
  cases hname : Field.ofName? n with
  | none =>
    have hrefusal : (Fault.unknownKey n).isRefusal = true := rfl
    exact ⟨_, rfl, Fault.told_place hrefusal _⟩
  | some f =>
    have hn : f.name = n := by
      have := List.find?_some hname
      exact eq_of_beq this
    have hsuits : ¬ Suits f v := fun hs => h ⟨f, congrArg Scalar.str hn.symm, hs⟩
    exact ⟨_, give_of_not_suits hsuits d, told_misfit f v⟩

/-- Entries that suit are all taken over, each for its own field. -/
theorem foldlM_giveKey_of_accepts (hnamed : Entries.Named es) (h : ∀ e ∈ es, Accepts e)
    (d : Draft) :
    es.foldlM (fun d entry => d.giveKey entry.1 entry.2) d = .ok fun f =>
      (Entries.get? es (.str f.name)).elim (d f) fun v => taken f v (d f) := by
  obtain ⟨htexts, hdistinct⟩ := hnamed
  induction es generalizing d with
  | nil => rfl
  | cons e es ih =>
    obtain ⟨k, v⟩ := e
    obtain ⟨f, rfl, hsuits⟩ := h _ List.mem_cons_self
    obtain ⟨hfresh, hrest⟩ := List.nodup_cons.1 hdistinct
    have hnamed : Entries.Named es := ⟨fun e he => htexts e (.tail _ he), hrest⟩
    rw [List.foldlM_cons]
    dsimp only
    rw [giveKey_of_suits hsuits]
    refine (ih (fun e he => h e (.tail _ he)) _ hnamed.texts hrest).trans ?_
    congr 1
    funext g
    rw [Entries.get?_cons]
    by_cases hg : g = f
    · -- the first entry was the only one for its field
      subst hg
      have hnone : Entries.get? es (.str g.name) = none := by
        refine Option.eq_none_iff_forall_ne_some.2 fun w hw => hfresh ?_
        have hkey : Scalar.str g.name ∈ es.map Prod.fst := List.mem_map_of_mem (hnamed.mem_iff.2 hw)
        exact hkey
      rw [hnone, if_pos rfl, Option.elim_none, Option.elim_some, put_self]
    · have hname : f.name ≠ g.name := fun hname => hg (Field.name_injective hname).symm
      rw [if_neg hname, put_of_ne _ _ hg]

/-- An entry that does not suit makes all of them fail, for a reason that is told. -/
theorem foldlM_giveKey_of_not_accepts (htexts : ∀ e ∈ es, ∃ t, e.1 = .str t)
    (h : ∃ e ∈ es, ¬ Accepts e) (d : Draft) :
    ∃ fault, es.foldlM (fun d entry => d.giveKey entry.1 entry.2) d = .error fault ∧
      fault.Told := by
  induction es generalizing d with
  | nil =>
    obtain ⟨e, he, -⟩ := h
    cases he
  | cons e es ih =>
    obtain ⟨k, v⟩ := e
    obtain ⟨n, rfl⟩ := htexts _ List.mem_cons_self
    rw [List.foldlM_cons]
    by_cases haccepts : Accepts (.str n, v)
    · obtain ⟨f, hn, hsuits⟩ := haccepts
      have hrest : ∃ e ∈ es, ¬ Accepts e := by
        obtain ⟨e, he, hnot⟩ := h
        rcases List.mem_cons.1 he with rfl | he
        · exact absurd ⟨f, hn, hsuits⟩ hnot
        · exact ⟨e, he, hnot⟩
      dsimp only at hn ⊢
      rw [hn, giveKey_of_suits hsuits]
      exact ih (fun e he => htexts e (.tail _ he)) hrest _
    · obtain ⟨fault, hgive, htold⟩ := giveKey_of_not_accepts haccepts d
      refine ⟨fault, ?_, htold⟩
      dsimp only
      rw [hgive]
      rfl

/-! ### Filling templates -/

theorem told_located {α : Type} {x : Except Fault α} {note : Note} {fault : Fault}
    (h : located note (x.mapError Fault.asResolution) = .error fault) : fault.Told := by
  cases x with
  | ok a => cases h
  | error f =>
    cases h
    exact Fault.told_place (Fault.isRefusal_asResolution f) note

variable {p : Loader}

theorem told_content {sc : Scope} {path : Path} {s : String} {template : Template} {fault : Fault}
    (hreads : p.Reads s) (hread : Template.read s = .ok template)
    (h : sc.content p path s = .error fault) : fault.Told := by
  rw [Scope.content, Loader.room, contentOf, hreads.2, hread] at h
  exact told_located h

theorem told_convert {k : Kind} {s : String} {note : Note} {found : Found} {fault : Fault}
    (h : convert k s note found = .error fault) : fault.Told := by
  unfold convert at h
  split at h
  · cases h
  split at h
  · cases h
    exact Or.inr rfl
  · cases h
    exact Fault.told_place rfl _

/-- All templates of a draft are well-formed, and the process can read them. -/
def Readable (p : Loader) (d : Draft) : Prop :=
  ∀ f s, d f = .template s → p.Reads s ∧ ∃ template, Template.read s = .ok template

theorem told_resolve (hd : d.Readable p) {fault : Fault} (h : d.resolve p f = .error fault) :
    fault.Told := by
  unfold resolve at h
  split at h
  · cases h
  next s hs =>
  obtain ⟨hreads, template, hread⟩ := hd f s hs
  unfold filled at h
  cases hcontent : d.scope.content p [.str f.name] s with
  | error e =>
    simp only [hcontent, bind, Except.bind] at h
    cases h
    exact told_content hreads hread hcontent
  | ok found =>
    simp only [hcontent, bind, Except.bind] at h
    split at h
    · cases h
    split at h
    · next hconvert =>
      cases h
      exact told_convert hconvert
    · cases h
      exact Or.inr rfl

theorem told_settings (hd : d.Readable p) {fault : Fault} (h : d.settings p = .error fault) :
    fault.Told := by
  have hfold : ∀ (l : List Field) (s : Settings),
      l.foldlM (fun s f => (d.resolve p f).map fun v => Field.set s f (f.kind.unescaped v)) s =
        .error fault → fault.Told := by
    intro l
    induction l with
    | nil => exact fun s h => nomatch h
    | cons f l ih =>
      intro s h
      rw [List.foldlM_cons] at h
      cases hresolve : d.resolve p f with
      | error e =>
        rw [hresolve] at h
        cases h
        exact told_resolve hd hresolve
      | ok v =>
        rw [hresolve] at h
        exact ih _ h
  exact hfold _ _ h

end Draft

/-! ### The last values -/

section Lists

variable {p : Loader} {texts texts' : List String} {es es' : Entries}

/-- What the last override of a key gives it, if there is one. -/
def lastValue? (p : Loader) (texts : List String) (key : List Char) :
    Option (Except Fault Value) :=
  (lastOf? texts key).map (Override.valueOf p)

theorem lastValue?_isSome_iff (p : Loader) (texts : List String) (key : List Char) :
    (lastValue? p texts key).isSome = true ↔ ∃ text ∈ texts, Override.keyOf text = key := by
  simp only [lastValue?, lastOf?, Option.isSome_map, List.find?_isSome, List.mem_reverse,
    beq_iff_eq]

/-- An override counts for nothing if its key is given again. -/
theorem lastValue?_cons_of_again {text : String}
    (h : ∃ t ∈ texts, Override.keyOf t = Override.keyOf text) (key : List Char) :
    lastValue? p (text :: texts) key = lastValue? p texts key := by
  simp only [lastValue?, lastOf?, List.reverse_cons, List.find?_append]
  cases hlast : texts.reverse.find? fun t => Override.keyOf t == key with
  | some t => rfl
  | none =>
    obtain ⟨t, ht, hkey⟩ := h
    have hother := List.find?_eq_none.1 hlast t (List.mem_reverse.2 ht)
    rw [hkey] at hother
    simp [hother]

theorem lastNamed?_isSome_iff (n : String) :
    (lastNamed? texts n).isSome = true ↔
      ∃ text ∈ texts, Key.name (Override.keyOf text) = n := by
  simp only [lastNamed?, List.find?_isSome, List.mem_reverse, beq_iff_eq]

theorem allHeld_of_assigned?
    (h : texts.all fun text => (Override.assigned? p text).any (isTime · == false)) :
    AllHeld p texts := by
  intro text htext
  have hsome := List.all_eq_true.1 h text htext
  obtain ⟨s, hs, htime⟩ := (Option.any_eq_true ..).1 hsome
  exact ⟨s, Override.assigns_of_assigned? hs, eq_of_beq htime⟩

/-- The entries that a list of overrides collects: each name has its last value. -/
structure Collects (p : Loader) (texts : List String) (es : Entries) : Prop where
  named : Entries.Named es
  get?_eq : ∀ n, Entries.get? es (.str n) =
    (lastNamed? texts n).bind fun text => (Override.valueOf p text).toOption

/-- What stands under a name was given by an override. -/
theorem Collects.exists_text (hes : Collects p texts es) {n : String} {v : Value}
    (hv : Entries.get? es (.str n) = some v) :
    ∃ text ∈ texts, Key.name (Override.keyOf text) = n ∧ Override.valueOf p text = .ok v := by
  rw [hes.get?_eq n, Option.bind_eq_some_iff] at hv
  obtain ⟨text, hlast, hvalue⟩ := hv
  have hname := List.find?_some hlast
  refine ⟨text, List.mem_reverse.1 (List.mem_of_find?_eq_some hlast), beq_iff_eq.1 hname, ?_⟩
  generalize Override.valueOf p text = read at hvalue ⊢
  cases read with
  | ok w => exact congrArg Except.ok (Option.some.inj hvalue)
  | error e => cases hvalue

/-- Every name that is given has an entry. -/
theorem Collects.exists_value (hes : Collects p texts es) (h : AllHeld p texts) {text : String}
    (htext : text ∈ texts) :
    ∃ v, Entries.get? es (.str (Key.name (Override.keyOf text))) = some v := by
  have hsome : (lastNamed? texts (Key.name (Override.keyOf text))).isSome = true :=
    (lastNamed?_isSome_iff _).2 ⟨text, htext, rfl⟩
  obtain ⟨last, hlast⟩ := Option.isSome_iff_exists.1 hsome
  obtain ⟨s, hassigns, -⟩ := h last (List.mem_reverse.1 (List.mem_of_find?_eq_some hlast))
  refine ⟨.scalar s, ?_⟩
  rw [hes.get?_eq, hlast, Option.bind_some, hassigns.valueOf_eq]
  rfl

theorem Collects.exists_scalar (hes : Collects p texts es) (h : AllHeld p texts) {n : String}
    {v : Value} (hv : Entries.get? es (.str n) = some v) : ∃ s, v = .scalar s ∧ Formed p s := by
  obtain ⟨text, hmem, -, hvalue⟩ := hes.exists_text hv
  obtain ⟨s, hassigns, -⟩ := h text hmem
  rw [hassigns.valueOf_eq] at hvalue
  exact ⟨s, (Except.ok.inj hvalue).symm, hassigns.formed⟩

theorem Collects.get?_field_eq (hes : Collects p texts es) (hes' : Collects p texts' es')
    (hlast : ∀ key, lastValue? p texts key = lastValue? p texts' key) (f : Field) :
    Entries.get? es (.str f.name) = Entries.get? es' (.str f.name) := by
  have hvalues := congrArg (Option.bind · Except.toOption) (hlast f.name.toList)
  simp only [lastValue?, Option.bind_map] at hvalues
  rw [hes.get?_eq, hes'.get?_eq, lastNamed?_field, lastNamed?_field]
  exact hvalues

/-- A name with an entry in one list has one in the other, in whichever way it is written. -/
theorem Collects.exists_get?_eq_some (hes : Collects p texts es) (h : AllHeld p texts)
    (hes' : Collects p texts' es')
    (hlast : ∀ key, lastValue? p texts key = lastValue? p texts' key) {n : String} {v : Value}
    (hv : Entries.get? es' (.str n) = some v) : ∃ w, Entries.get? es (.str n) = some w := by
  obtain ⟨text', hmem', rfl, -⟩ := hes'.exists_text hv
  -- the key as it is written is mentioned in both lists
  have hmention := (lastValue?_isSome_iff p texts' (Override.keyOf text')).2 ⟨text', hmem', rfl⟩
  rw [← hlast] at hmention
  obtain ⟨text, hmem, hkey⟩ := (lastValue?_isSome_iff p texts _).1 hmention
  rw [← hkey]
  exact hes.exists_value h hmem

/-- If the entries of one list all suit, so do those of the other. -/
theorem Collects.accepts (hes : Collects p texts es) (h : AllHeld p texts)
    (hes' : Collects p texts' es')
    (hlast : ∀ key, lastValue? p texts key = lastValue? p texts' key)
    (haccepts : ∀ e ∈ es, Draft.Accepts e) : ∀ e ∈ es', Draft.Accepts e := by
  rintro ⟨k, v⟩ he
  obtain ⟨n, rfl⟩ := hes'.named.texts _ he
  have hv := hes'.named.mem_iff.1 he
  obtain ⟨w, hw⟩ := hes.exists_get?_eq_some h hes' hlast hv
  obtain ⟨f, hn, hsuits⟩ := haccepts _ (hes.named.mem_iff.2 hw)
  obtain rfl := Scalar.str.inj hn
  rw [hes.get?_field_eq hes' hlast f, hv, Option.some.injEq] at hw
  subst hw
  exact ⟨f, rfl, hsuits⟩

/-- The draft that entries make which suit. -/
def draftFrom (es : Entries) : Draft := fun f =>
  (Entries.get? es (.str f.name)).elim (Draft.defaults f) fun v =>
    Draft.taken f v (Draft.defaults f)

theorem Collects.readable (hes : Collects p texts es) (h : AllHeld p texts) :
    (draftFrom es).Readable p := by
  intro f t ht
  cases hv : Entries.get? es (.str f.name) with
  | none =>
    rw [draftFrom, hv] at ht
    cases ht
  | some v =>
    obtain ⟨s, rfl, hformed⟩ := hes.exists_scalar h hv
    rw [draftFrom, hv, Option.elim_some, Draft.taken] at ht
    split at ht
    · cases ht
    split at ht
    · next u hu =>
      cases ht
      cases s with
      | str u' =>
        rw [template?] at hu
        split at hu
        · next hopened =>
          cases hu
          exact hformed _ rfl hopened
        · cases hu
      | _ => cases hu
    · next hnone =>
      cases hvalue : f.kind.ofValue? (.scalar s) with
      | none =>
        rw [hvalue] at ht
        cases ht
      | some x =>
        rw [hvalue] at ht
        cases ht

end Lists

/-! ### Loading -/

/-- What is loaded from a draft, or why nothing is. -/
def loadDraft (p : Loader) (d : Draft) : Except LoadError Settings := do
  let settings ← (d.settings p).mapError LoadError.fault
  match settings.complaint? with
  | some i => throw (if i.isPrintable then .invalid i else .overlongComplaint)
  | none => return settings

theorem told_loadDraft {p : Loader} {d : Draft} (hd : d.Readable p) {e : LoadError}
    (h : loadDraft p d = .error e) : e.Told := by
  unfold loadDraft at h
  cases hsettings : d.settings p with
  | error fault =>
    rw [hsettings] at h
    cases h
    exact LoadError.told_fault (Draft.told_settings hd hsettings)
  | ok c =>
    rw [hsettings] at h
    change (match c.complaint? with
      | some i => Except.error (if i.isPrintable then LoadError.invalid i else .overlongComplaint)
      | none => Except.ok c) = Except.error e at h
    split at h
    · next i hi =>
      cases h
      split
      · exact Or.inl rfl
      · exact Or.inr (Or.inr rfl)
    · cases h

section Lists

variable {p : Loader} {texts texts' : List String} {es es' : Entries}

theorem given_of_collect (hcollect : collect p texts = .ok es) :
    given p texts = draftOf es >>= Draft.settings p := by
  rw [given, hcollect]
  rfl

theorem load_of_accepts (hcollect : collect p texts = .ok es) (hnamed : Entries.Named es)
    (haccepts : ∀ e ∈ es, Draft.Accepts e) : load p texts = loadDraft p (draftFrom es) := by
  have hdraft : draftOf es = .ok (draftFrom es) :=
    Draft.foldlM_giveKey_of_accepts hnamed haccepts Draft.defaults
  rw [load, given_of_collect hcollect, hdraft]
  rfl

theorem load_of_not_accepts (hcollect : collect p texts = .ok es) (hnamed : Entries.Named es)
    (h : ¬ ∀ e ∈ es, Draft.Accepts e) : ∃ e, load p texts = .error e ∧ e.Told := by
  obtain ⟨fault, hfold, htold⟩ := Draft.foldlM_giveKey_of_not_accepts hnamed.texts
    (by simpa using h) Draft.defaults
  have hdraft : draftOf es = .error fault := hfold
  refine ⟨.fault fault, ?_, LoadError.told_fault htold⟩
  rw [load, given_of_collect hcollect, hdraft]
  rfl

/-- A list with a day or a time fails, whatever is given after it. -/
theorem load_of_givesTime (h : AllAssign p texts) (htime : GivesTime p texts) :
    ∃ e, load p texts = .error e ∧ e.Told := by
  obtain ⟨fault, hcollect, htold⟩ := collect_of_givesTime h htime
  refine ⟨.fault fault, ?_, LoadError.told_fault htold⟩
  rw [load, given, hcollect]
  rfl

/-- So does a list with a template that the process cannot read, but its failure is none that is
    told. -/
theorem load_append_of_not_reads (h : AllHeld p texts) {text t : String}
    (hflat : ∀ c ∈ Override.keyOf text, c ≠ '.' ∧ c ≠ '[')
    (hvalue : Override.valueOf p text = .ok (.scalar (.str t)))
    (hopened : Template.isOpened t.toList = true) (hsimple : Template.isSimple t.toList = false)
    (hreads : p.reads p.room t = false) (later : List String) :
    load p (texts ++ text :: later) = .error (.fault .tooDeep) ∧
      ¬ LoadError.Told (.fault .tooDeep) := by
  refine ⟨?_, fun htold => ?_⟩
  · rw [load, given, collect_append_of_not_reads h hflat hvalue hopened hsimple hreads later]
    rfl
  · rcases htold with hreport | hoverlong | hcomplaint
    · cases hreport
    · cases hoverlong
    · cases hcomplaint

/-- **Only the last value of each key counts.**  Two lists of overrides of plain names by scalars,
    in which each key has the same last value and which both give a day or a time or both give
    none, load the same settings or both fail, in whatever order they stand and whatever was given
    before.  Every such failure is reported as one of the settings, unless an integer would be too
    long as text. -/
theorem load_of_last_values (h : AllAssign p texts) (h' : AllAssign p texts')
    (hlast : ∀ key, lastValue? p texts key = lastValue? p texts' key)
    (htime : GivesTime p texts ↔ GivesTime p texts') :
    (∃ c, load p texts = .ok c ∧ load p texts' = .ok c) ∨
      ∃ e e', load p texts = .error e ∧ load p texts' = .error e' ∧ e.Told ∧ e'.Told := by
  by_cases hgives : GivesTime p texts
  · obtain ⟨e, hload, htold⟩ := load_of_givesTime h hgives
    obtain ⟨e', hload', htold'⟩ := load_of_givesTime h' (htime.1 hgives)
    exact Or.inr ⟨e, e', hload, hload', htold, htold'⟩
  have hheld := h.allHeld hgives
  have hheld' := h'.allHeld (mt htime.2 hgives)
  obtain ⟨es, hcollect, hnamed, hget⟩ := collect_of_allHeld hheld
  obtain ⟨es', hcollect', hnamed', hget'⟩ := collect_of_allHeld hheld'
  have hes : Collects p texts es := ⟨hnamed, hget⟩
  have hes' : Collects p texts' es' := ⟨hnamed', hget'⟩
  by_cases haccepts : ∀ e ∈ es, Draft.Accepts e
  · have haccepts' := hes.accepts hheld hes' hlast haccepts
    have hdraft : draftFrom es = draftFrom es' := by
      funext f
      rw [draftFrom, draftFrom, hes.get?_field_eq hes' hlast f]
    have hload := load_of_accepts hcollect hnamed haccepts
    have hload' := load_of_accepts hcollect' hnamed' haccepts'
    rw [← hdraft] at hload'
    cases hresult : loadDraft p (draftFrom es) with
    | ok c => exact Or.inl ⟨c, hload.trans hresult, hload'.trans hresult⟩
    | error e =>
      have htold := told_loadDraft (hes.readable hheld) hresult
      exact Or.inr ⟨e, e, hload.trans hresult, hload'.trans hresult, htold, htold⟩
  · have haccepts' : ¬ ∀ e ∈ es', Draft.Accepts e := fun haccepts' =>
      haccepts (hes'.accepts hheld' hes (fun key => (hlast key).symm) haccepts')
    obtain ⟨e, hload, htold⟩ := load_of_not_accepts hcollect hnamed haccepts
    obtain ⟨e', hload', htold'⟩ := load_of_not_accepts hcollect' hnamed' haccepts'
    exact Or.inr ⟨e, e', hload, hload', htold, htold'⟩

/-- The reference is filled by the value that stands after it. -/
theorem load_of_last_values_of_reference :
    let p := usualLoader
    AllAssign p ["scale=x", "fps=$\x7bscale\x7d", "scale=5"] ∧
    AllAssign p ["scale=5", "fps=$\x7bscale\x7d"] ∧
    (∀ key, lastValue? p ["scale=x", "fps=$\x7bscale\x7d", "scale=5"] key =
      lastValue? p ["scale=5", "fps=$\x7bscale\x7d"] key) ∧
    ¬ GivesTime p ["scale=x", "fps=$\x7bscale\x7d", "scale=5"] ∧
    ¬ GivesTime p ["scale=5", "fps=$\x7bscale\x7d"] ∧
    load p ["scale=x", "fps=$\x7bscale\x7d", "scale=5"] = .ok { scale := 5, fps := 5 } := by
  intro p
  have hheld : AllHeld p ["scale=x", "fps=$\x7bscale\x7d", "scale=5"] :=
    allHeld_of_assigned? (by decide +kernel)
  have hheld' : AllHeld p ["scale=5", "fps=$\x7bscale\x7d"] :=
    allHeld_of_assigned? (by decide +kernel)
  have hscale : Override.keyOf "scale=5" = "scale".toList := by decide +kernel
  have hfps : Override.keyOf "fps=$\x7bscale\x7d" = "fps".toList := by decide +kernel
  have hlast : ∀ key, lastValue? p ["scale=x", "fps=$\x7bscale\x7d", "scale=5"] key =
      lastValue? p ["scale=5", "fps=$\x7bscale\x7d"] key := by
    intro key
    rw [lastValue?_cons_of_again ⟨"scale=5", by simp, by decide +kernel⟩]
    simp only [lastValue?, lastOf?, List.reverse_cons, List.reverse_nil, List.nil_append,
      List.cons_append, List.find?_cons, List.find?_nil, hscale, hfps]
    by_cases hkey : "scale".toList = key
    · subst hkey
      rfl
    · rw [beq_eq_false_iff_ne.2 hkey]
  have hload : load p ["scale=5", "fps=$\x7bscale\x7d"] = .ok { scale := 5, fps := 5 } :=
    load_eq_ok_of_toOption (by decide +kernel)
  refine ⟨hheld.allAssign, hheld'.allAssign, hlast, hheld.not_givesTime, hheld'.not_givesTime, ?_⟩
  rcases load_of_last_values hheld.allAssign hheld'.allAssign hlast
    (iff_of_false hheld.not_givesTime hheld'.not_givesTime) with ⟨c, hc, hc'⟩ | ⟨e, e', -, he', -⟩
  · rw [hc, ← hc', hload]
  · rw [hload] at he'
    cases he'

/-- A day is refused where it stands, though the name gets a value that it can hold. -/
theorem load_minds_earlier_day :
    let p := usualLoader
    AllAssign p ["scale=!!timestamp 2001-01-01", "scale=5"] ∧ AllAssign p ["scale=5"] ∧
    (∀ key, lastValue? p ["scale=!!timestamp 2001-01-01", "scale=5"] key =
      lastValue? p ["scale=5"] key) ∧
    (∃ e, load p ["scale=!!timestamp 2001-01-01", "scale=5"] = .error e) ∧
    load p ["scale=5"] = .ok { scale := 5 } := by
  intro p
  have hsome : ∀ text ∈ ["scale=!!timestamp 2001-01-01", "scale=5"],
      (Override.assigned? p text).isSome = true := by decide +kernel
  have hassign : AllAssign p ["scale=!!timestamp 2001-01-01", "scale=5"] := fun text htext =>
    (Option.isSome_iff_exists.1 (hsome text htext)).imp fun _ => Override.assigns_of_assigned?
  have hnone : (load p ["scale=!!timestamp 2001-01-01", "scale=5"]).toOption = none := by
    decide +kernel
  refine ⟨hassign, fun text htext => hassign text (.tail _ htext),
    lastValue?_cons_of_again ⟨"scale=5", by simp, by decide +kernel⟩, ?_,
    load_eq_ok_of_toOption (by decide +kernel)⟩
  cases hload : load p ["scale=!!timestamp 2001-01-01", "scale=5"] with
  | ok c =>
    rw [hload] at hnone
    cases hnone
  | error e => exact ⟨e, rfl⟩

end Lists

end Chip8.Settings
