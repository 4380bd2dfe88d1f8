/-
  Chip8/Proofs/Printing.lean
  ==========================
  **Settings as overrides** — the text of each field, given as an override, is read back as the
  value of the field, so that settings that make sense are loaded from their own text, in any
  order, and nothing else is loaded from anything.

  The forms of plain scalars compete for a text.  Decimal digits are an integer, since the
  forms that are tried first are words; and letters are a text unless they are one of those
  words, since all other forms start with a digit, a sign or a point.
-/
import Mathlib
import Chip8.Proofs.Numerals
import Chip8.Proofs.Precedence
import Chip8.Proofs.Words

namespace Chip8

/-! ### Forms of plain scalars -/

namespace Yaml

open Chip8.Text (cut cut_eq_singleton splitSign splitSign_of_isDigit)

namespace Tag

/-- The texts that have a tag of their own. -/
def special : List String := trueWords ++ falseWords ++ nullWords ++ ["=", "<<", "!", "&", "*"]

theorem ofForm_of_not_special {text : String} (h : text ∉ special) :
    ofForm text =
      let body := (splitSign text.toList).2
      if isIntForm body then int
      else if infinityWords.contains (String.ofList body) || nanWords.contains text then float
      else if isFloatForm body || isFractionForm text.toList || isSixtyFloatForm body then float
      else str := by
  simp only [special, List.mem_append, List.mem_cons, List.not_mem_nil, or_false, not_or] at h
  obtain ⟨⟨⟨htrue, hfalse⟩, hnull⟩, hdefault, hmerge, hmarks⟩ := h
  have hmark : ["!", "&", "*"].contains text = false := by simpa using hmarks
  simp only [ofForm, List.contains_eq_mem, htrue, hfalse, hnull, hdefault, hmerge, decide_false,
    Bool.or_self, Bool.false_eq_true, if_false]
  simp only [List.contains_eq_mem] at hmark
  simp only [hmark, Bool.false_eq_true, if_false]

theorem not_special_of_isDigit {text : String} {c : Char}
    (h : (splitSign text.toList).2.head? = some c) (hc : c.isDigit = true) : text ∉ special := by
  intro htext
  have hall : ∀ w ∈ special, (splitSign w.toList).2.head?.any Char.isDigit = false := by decide
  have := hall text htext
  rw [h] at this
  simp only [Option.any_some, hc] at this
  cases this

theorem isIntForm_toDigits (n : Nat) : isIntForm (Nat.toDigits 10 n) = true := by
  obtain rfl | hpos := Nat.eq_zero_or_pos n
  · rfl
  · have hzero := Text.head?_toDigits_ne_zero hpos
    have hdigits : ∀ c ∈ Nat.toDigits 10 n, c.isDigit = true := fun c hc =>
      Nat.isDigit_of_mem_toDigits (by decide) (by decide) hc
    cases hcons : Nat.toDigits 10 n with
    | nil => exact absurd hcons Nat.toDigits_ne_nil
    | cons c r =>
      rw [hcons] at hzero hdigits
      have hc : c ≠ '0' := fun hc => hzero (congrArg some hc)
      have hstarts : startsNonzero (c :: r) = true := by
        simp only [startsNonzero, startsWithDigit, List.head?_cons, Option.any_some,
          hdigits c List.mem_cons_self, Bool.true_and, Bool.and_eq_true, List.all_eq_true, bne_iff_ne]
        exact ⟨fun d hd => by rw [isDigitOrLine, hdigits d hd, Bool.true_or], hzero⟩
      unfold isIntForm
      split <;> simp_all

/-- A text of letters is tagged as a text, unless it is one of the words. -/
theorem ofForm_of_letters {text : String} (hne : text.toList ≠ [])
    (hletters : ∀ c ∈ text.toList, c.isAlpha = true) (h : text ∉ special) : ofForm text = str := by
  rw [ofForm_of_not_special h]
  have hcolon : ':' ∉ text.toList := fun hmem => absurd (hletters _ hmem) (by decide)
  have hcut := cut_eq_singleton hcolon
  have hnan : nanWords.contains text = false := by
    rw [List.contains_eq_mem, decide_eq_false_iff_not]
    intro hmem
    have hpoint : ∀ w ∈ nanWords, '.' ∈ w.toList := by decide
    exact absurd (hletters _ (hpoint text hmem)) (by decide)
  have hinfinity : infinityWords.contains text = false := by
    rw [List.contains_eq_mem, decide_eq_false_iff_not]
    intro hmem
    have hpoint : ∀ w ∈ infinityWords, '.' ∈ w.toList := by decide
    exact absurd (hletters _ (hpoint text hmem)) (by decide)
  have hword : String.ofList text.toList = text := String.ofList_toList
  cases hcons : text.toList with
  | nil => exact absurd hcons hne
  | cons c r =>
    rw [hcons] at hletters hcut hword
    have hc : c.isAlpha = true := hletters c List.mem_cons_self
    have hdigit : c.isDigit = false := by
      simp only [Char.isAlpha, Char.isUpper, Char.isLower, Char.isDigit] at hc ⊢
      grind
    have hminus : c ≠ '-' := by rintro rfl; cases hc
    have hplus : c ≠ '+' := by rintro rfl; cases hc
    have hline : c ≠ '_' := by rintro rfl; cases hc
    have hpoint : c ≠ '.' := by rintro rfl; cases hc
    have hzero : c ≠ '0' := by rintro rfl; cases hc
    have hsign : splitSign (c :: r) = (false, c :: r) := by
      simp [splitSign, hminus, hplus]
    have hint : isIntForm (c :: r) = false := by
      simp [isIntForm, hzero, hcut, startsNonzero, startsWithDigit, hdigit]
    have hspan : (c :: r).span isDigitOrLine = ([], c :: r) := by
      have hc : isDigitOrLine c = false := by simp [isDigitOrLine, hdigit, hline]
      simp [List.span, List.span.loop, hc]
    have hfloat : isFloatForm (c :: r) = false := by
      simp only [isFloatForm, hspan]
      rfl
    have hfraction : isFractionForm (c :: r) = false := by
      simp [isFractionForm, hpoint]
    have hsixty : isSixtyFloatForm (c :: r) = false := by
      simp [isSixtyFloatForm, hcut]
    simp only [hsign, hint, hword, hinfinity, hnan, hfloat, hfraction, hsixty, Bool.or_self,
      Bool.false_eq_true, if_false]

end Tag

namespace Scalar

/-- A plain word is tagged by its form. -/
theorem ofPlain_of_isPlainWord {text : String} (h : isPlainWord text.toList = true) :
    Tag.ofPlain text = Tag.ofForm text := by
  have hbreak : '\n' ∉ text.toList := fun hmem =>
    ne_of_isWordPart ((isWord_of_isPlainWord h).parts _ hmem) (by decide) rfl
  have htext : text ≠ "\n" := by
    rintro rfl
    exact hbreak (by decide)
  rw [Tag.ofPlain, if_neg htext, Tag.withoutBreak]
  split
  · next r hr =>
    have hmem : '\n' ∈ text.toList.reverse := by
      rw [hr]
      exact List.mem_cons_self
    exact absurd (List.mem_reverse.1 hmem) hbreak
  · rfl

/-! ### Integers -/

theorem toList_toString (i : Int) :
    (toString i).toList =
      if i < 0 then '-' :: Nat.toDigits 10 i.natAbs else Nat.toDigits 10 i.natAbs := by
  cases i with
  | ofNat n => exact Nat.toList_repr
  | negSucc n =>
    have htext : toString (Int.negSucc n) = "-" ++ Nat.repr (n + 1) := rfl
    rw [htext, if_pos (Int.negSucc_lt_zero n), String.toList_append, Nat.toList_repr]
    rfl

theorem splitSign_toString (i : Int) :
    splitSign (toString i).toList = (decide (i < 0), Nat.toDigits 10 i.natAbs) := by
  rw [toList_toString]
  split
  · next hneg => rw [decide_eq_true hneg]; rfl
  · next hpos =>
    rw [decide_eq_false hpos]
    exact splitSign_of_isDigit fun c hc =>
      Nat.isDigit_of_mem_toDigits (by decide) (by decide) (List.mem_of_mem_head? hc)

theorem isPlainWord_toString (i : Int) : isPlainWord (toString i).toList = true := by
  rw [isPlainWord_iff, splitSign_toString]
  refine ⟨Nat.toDigits_ne_nil, fun c hc => ?_⟩
  have hdigit := Nat.isDigit_of_mem_toDigits (by decide) (by decide) hc
  simp [Char.isAlphanum, hdigit]

theorem ofPlain_toString_tag (i : Int) : Tag.ofPlain (toString i) = .int := by
  rw [ofPlain_of_isPlainWord (isPlainWord_toString i)]
  cases hcons : Nat.toDigits 10 i.natAbs with
  | nil => exact absurd hcons Nat.toDigits_ne_nil
  | cons c r =>
    have hdigit : c.isDigit = true :=
      Nat.isDigit_of_mem_toDigits (by decide) (by decide) (hcons ▸ List.mem_cons_self)
    have hspecial : toString i ∉ Tag.special :=
      Tag.not_special_of_isDigit (by rw [splitSign_toString, hcons]; rfl) hdigit
    rw [Tag.ofForm_of_not_special hspecial, splitSign_toString]
    exact if_pos (Tag.isIntForm_toDigits _)

theorem intBody_toDigits {n : Nat} (h : n < Nat.pow 10 Text.digitLimit) :
    intBody (Nat.toDigits 10 n) = .ok n := by
  obtain rfl | hpos := Nat.eq_zero_or_pos n
  · rfl
  · have hzero := Text.head?_toDigits_ne_zero hpos
    have hread := Text.readInt?_toDigits h
    clear h
    have hcolon : (Nat.toDigits 10 n).contains ':' = false := by
      rw [List.contains_eq_mem, decide_eq_false_iff_not]
      exact fun hmem => absurd (Nat.isDigit_of_mem_toDigits (by decide) (by decide) hmem) (by decide)
    generalize Nat.toDigits 10 n = s at *
    cases s with
    | nil => cases hread
    | cons c r =>
      have hc : c ≠ '0' := fun hc => hzero (congrArg some hc)
      have hbody : intBody (c :: r) =
          if (c :: r).contains ':' then sixtyInt (c :: r) else decimalInt (c :: r) := by
        unfold intBody
        split <;> simp_all
      rw [hbody, hcolon, decimalInt, hread]
      rfl

theorem readInt_toString {i : Int} (h : i.natAbs < Nat.pow 10 Text.digitLimit) :
    readInt (toString i) = .ok i := by
  have hbody := intBody_toDigits h
  clear h
  have hsplit := splitSign_toString i
  have hline : '_' ∉ (toString i).toList := by
    rw [toList_toString]
    split
    · exact List.not_mem_cons_of_ne_of_not_mem (by decide) Nat.underscore_not_in_toDigits
    · exact Nat.underscore_not_in_toDigits
  have hfilter : (toString i).toList.filter (· != '_') = (toString i).toList :=
    List.filter_eq_self.2 fun c hc => bne_iff_ne.2 fun heq => hline (heq ▸ hc)
  rw [readInt, hfilter]
  split
  · next hnil =>
    rw [hnil] at hsplit
    exact absurd (congrArg Prod.snd hsplit).symm Nat.toDigits_ne_nil
  · rw [hsplit]
    dsimp only
    rw [hbody]
    by_cases hneg : i < 0
    · simp only [Except.map, hneg, decide_true, if_true, Except.ok.injEq]
      omega
    · simp only [Except.map, hneg, decide_false, Bool.false_eq_true, if_false, Except.ok.injEq]
      omega

end Scalar

/-! ### Values -/

namespace Value

theorem read_of_isPlainWord {text : String} (h : Scalar.isPlainWord text.toList = true) :
    read copies text = (Scalar.ofPlain text).map scalar := by
  rw [read, if_pos h]

theorem read_toString {i : Int} (h : i.natAbs < Nat.pow 10 Text.digitLimit) :
    read copies (toString i) = .ok (.scalar (.int i)) := by
  rw [read_of_isPlainWord (Scalar.isPlainWord_toString i), Scalar.ofPlain,
    Scalar.ofPlain_toString_tag, Scalar.ofText, Scalar.readInt_toString h]
  rfl

/-- Hexadecimal digits are an integer, however many there are. -/
theorem read_hex {n : Nat} (hn : 0 < n) :
    read copies (String.ofList ('0' :: 'x' :: List.replicate n 'f')) =
      .ok (.scalar (.int (16 ^ n - 1 : Nat))) := by
  generalize htext : String.ofList ('0' :: 'x' :: List.replicate n 'f') = text
  have htoList : text.toList = '0' :: 'x' :: List.replicate n 'f' := by
    rw [← htext, String.toList_ofList]
  have hsplit : splitSign text.toList = (false, '0' :: 'x' :: List.replicate n 'f') := by
    rw [htoList]
    rfl
  have hmem : ∀ c ∈ text.toList, c = '0' ∨ c = 'x' ∨ c = 'f' := by
    intro c hc
    rw [htoList, List.mem_cons, List.mem_cons] at hc
    exact hc.imp_right (Or.imp_right List.eq_of_mem_replicate)
  have hword : Scalar.isPlainWord text.toList = true := by
    rw [Scalar.isPlainWord_iff, hsplit]
    refine ⟨nofun, fun c hc => ?_⟩
    rw [← htoList] at hc
    rcases hmem c hc with rfl | rfl | rfl <;> decide
  have hform : Tag.isIntForm ('0' :: 'x' :: List.replicate n 'f') = true := by
    change Tag.allOf _ (List.replicate n 'f') = true
    simp only [Tag.allOf, Bool.and_eq_true, Bool.not_eq_true', List.all_eq_true]
    refine ⟨by simpa using hn.ne', fun c hc => ?_⟩
    rw [List.eq_of_mem_replicate hc]
    decide
  have htag : Tag.ofPlain text = .int := by
    rw [Scalar.ofPlain_of_isPlainWord hword, Tag.ofForm_of_not_special
      (Tag.not_special_of_isDigit (c := '0') (by rw [hsplit]; rfl) (by decide)), hsplit]
    exact if_pos hform
  have hfilter : text.toList.filter (· != '_') = '0' :: 'x' :: List.replicate n 'f' := by
    rw [← htoList]
    refine List.filter_eq_self.2 fun c hc => ?_
    rcases hmem c hc with rfl | rfl | rfl <;> decide
  have hint : Scalar.readInt text = .ok (16 ^ n - 1 : Nat) := by
    rw [Scalar.readInt, hfilter]
    change (Scalar.orBad (Text.readIntIn? 16 'x' (List.replicate n 'f')) _).map _ = _
    rw [Text.readIntIn?_replicate hn]
    rfl
  rw [read_of_isPlainWord hword, Scalar.ofPlain, htag, Scalar.ofText, hint]
  rfl

theorem read_of_readFlag {text : String} {b : Bool} (hword : Scalar.isPlainWord text.toList = true)
    (htag : Tag.ofPlain text = .bool) (hread : Scalar.readFlag text = .ok b) :
    read copies text = .ok (.scalar (.bool b)) := by
  have hvalue : ∀ place, Scalar.ofText place .bool text = .ok (.bool b) := by
    intro place
    change (Scalar.readFlag text).map Scalar.bool = _
    rw [hread]
    rfl
  rw [read_of_isPlainWord hword, Scalar.ofPlain, htag, hvalue]
  rfl

theorem read_flag (b : Bool) :
    read copies (if b then "True" else "False") = .ok (.scalar (.bool b)) := by
  cases b with
  | true => exact read_of_readFlag (by decide) (by decide) (by decide +kernel)
  | false => exact read_of_readFlag (by decide) (by decide) (by decide +kernel)

theorem read_of_letters {text : String} (hne : text.toList ≠ [])
    (hletters : ∀ c ∈ text.toList, c.isAlpha = true) (h : text ∉ Tag.special) :
    read copies text = .ok (.scalar (.str text)) := by
  have hsplit : splitSign text.toList = (false, text.toList) := by
    unfold splitSign
    split
    · next r hr => exact absurd (hletters '-' (hr ▸ List.mem_cons_self)) (by decide)
    · next r hr => exact absurd (hletters '+' (hr ▸ List.mem_cons_self)) (by decide)
    · rfl
  have hword : Scalar.isPlainWord text.toList = true := by
    rw [Scalar.isPlainWord_iff, hsplit]
    exact ⟨hne, fun c hc => by simp [Char.isAlphanum, hletters c hc]⟩
  rw [read_of_isPlainWord hword, Scalar.ofPlain, Scalar.ofPlain_of_isPlainWord hword,
    Tag.ofForm_of_letters hne hletters h]
  rfl

end Value

end Yaml

/-! ### Overrides of fields -/

namespace Settings

open Chip8.Yaml (Entries Scalar Tag Value)

/-- A text reads as a scalar that is taken for a value of a kind: it is no template and no mark,
    and the value is not taken out of a field as another. -/
structure ReadsAs (text : String) (k : Kind) (v : k.Carrier) (s : Scalar) : Prop where
  read_eq : ∀ copies, Value.read copies text = .ok (.scalar s)
  template?_eq : template? (.scalar s) = none
  isUnset_eq : isUnset (.scalar s) = false
  ofScalar?_eq : k.ofScalar? s = some v
  unescaped_eq : k.unescaped v = v

/-- A field that is given by a text, and the scalar that the text reads as. -/
structure Reading where
  field : Field
  text : String
  scalar : Scalar

namespace Reading

/-- The override that gives a field by its text. -/
def override (r : Reading) : String := r.field.name ++ "=" ++ r.text

/-- The text gives the field the value that it has in settings. -/
def Fits (c : Settings) (r : Reading) : Prop :=
  ReadsAs r.text r.field.kind (Field.get c r.field) r.scalar

end Reading

section

variable {text : String} {k : Kind} {v : k.Carrier} {s : Scalar}

theorem ReadsAs.formed (h : ReadsAs text k v s) (p : Loader) : Formed p s := by
  rintro t rfl hopened
  have htemplate := h.template?_eq
  rw [template?, if_pos hopened] at htemplate
  cases htemplate

theorem ReadsAs.isTime_eq (h : ReadsAs text k v s) : isTime s = false := by
  cases s with
  | date | moment => cases k <;> cases h.ofScalar?_eq
  | null | bool | int | float | bytes | str => rfl

end

section Readings

variable {c : Settings} {r : Reading} {rs : List Reading}

theorem Reading.split_override (r : Reading) :
    Override.split r.override.toList = (r.field.name.toList, some r.text.toList) := by
  have hplain : r.field.name.toList.all (fun ch => ch ≠ '=' ∧ ch ≠ '\\') = true := by
    cases r.field <;> decide
  have hname : ∀ ch ∈ r.field.name.toList, ch ≠ '=' ∧ ch ≠ '\\' := fun ch hch =>
    of_decide_eq_true (List.all_eq_true.1 hplain ch hch)
  have htext : r.override.toList = r.field.name.toList ++ '=' :: r.text.toList := by
    rw [Reading.override, String.toList_append, String.toList_append, List.append_assoc]
    rfl
  rw [htext, Override.split_of_key _ hname]

theorem Reading.keyOf_override (r : Reading) :
    Override.keyOf r.override = r.field.name.toList := by
  rw [Override.keyOf, r.split_override]

theorem Reading.Fits.assigns (h : r.Fits c) (p : Loader) :
    Override.Assigns p r.override r.scalar where
  named := by
    rw [r.keyOf_override]
    cases r.field <;> decide
  flat := by
    have hflat : r.field.name.toList.all Key.isOrdinary = true := by cases r.field <;> decide
    intro ch hch
    rw [r.keyOf_override] at hch
    have hordinary := List.all_eq_true.1 hflat ch hch
    simp only [Key.isOrdinary, Bool.and_eq_true, bne_iff_ne] at hordinary
    exact hordinary.1
  valueOf_eq := by
    rw [Override.valueOf, r.split_override]
    simp only [Override.readValue, String.ofList_toList, h.read_eq]
    rfl
  formed := ReadsAs.formed h p

theorem Reading.Fits.suits (h : r.Fits c) : Draft.Suits r.field (.scalar r.scalar) :=
  Or.inr (Or.inr (Option.isSome_iff_exists.2 ⟨_, h.ofScalar?_eq⟩))

theorem Reading.Fits.taken_eq (h : r.Fits c) (old : Entry r.field.kind) :
    Draft.taken r.field (.scalar r.scalar) old = .value (Field.get c r.field) := by
  simp only [Draft.taken, h.isUnset_eq, h.template?_eq, Kind.ofValue?, h.ofScalar?_eq,
    Bool.false_eq_true, if_false, Option.elim_some]

theorem settings_of_values (p : Loader) {d : Draft} (h : ∀ f, d f = .value (Field.get c f))
    (hunescaped : ∀ f, f.kind.unescaped (Field.get c f) = Field.get c f) :
    d.settings p = .ok c := by
  have hfold : ∀ (l : List Field) (s : Settings), ∃ s',
      l.foldlM (fun s f => (d.resolve p f).map fun v => Field.set s f (f.kind.unescaped v)) s =
        .ok s' ∧
      (∀ f ∈ l, Field.get s' f = Field.get c f) ∧ ∀ f, f ∉ l → Field.get s' f = Field.get s f := by
    intro l
    induction l with
    | nil => exact fun s => ⟨s, rfl, fun _ hf => absurd hf List.not_mem_nil, fun _ _ => rfl⟩
    | cons f l ih =>
      intro s
      obtain ⟨s', hfold, hin, hout⟩ := ih (Field.set s f (Field.get c f))
      refine ⟨s', ?_, fun g hg => ?_, fun g hg => ?_⟩
      · rw [List.foldlM_cons, Draft.resolve, h f]
        simp only [Except.map, hunescaped]
        exact hfold
      · by_cases hmem : g ∈ l
        · exact hin g hmem
        · obtain rfl := (List.mem_cons.1 hg).resolve_right hmem
          rw [hout g hmem, Field.get_set]
      · obtain ⟨hne, hmem⟩ := not_or.1 (mt List.mem_cons.2 hg)
        rw [hout g hmem, Field.get_set_of_ne _ _ hne]
  obtain ⟨s', hsettings, hin, -⟩ := hfold Field.all {}
  obtain rfl : s' = c := Field.ext_get fun f => hin f (Field.mem_all f)
  exact hsettings

theorem unescaped_default (f : Field) : f.kind.unescaped (Field.get {} f) = Field.get {} f := by
  cases f <;> rfl

/-- Overrides of fields by their text give these fields, and leave the others at their
    defaults. -/
theorem load_readings (p : Loader) (h : ∀ r ∈ rs, r.Fits c)
    (hrest : ∀ f, f ∉ rs.map Reading.field → Field.get c f = Field.get {} f) (hc : c.Valid) :
    load p (rs.map Reading.override) = .ok c := by
  have hheld : AllHeld p (rs.map Reading.override) := by
    intro text htext
    obtain ⟨r, hr, rfl⟩ := List.mem_map.1 htext
    exact ⟨r.scalar, (h r hr).assigns p, ReadsAs.isTime_eq (h r hr)⟩
  obtain ⟨es, hcollect, hnamed, hget⟩ := collect_of_allHeld hheld
  have hes : Collects p (rs.map Reading.override) es := ⟨hnamed, hget⟩
  have hentry : ∀ n v, Entries.get? es (.str n) = some v →
      ∃ r ∈ rs, r.field.name = n ∧ v = .scalar r.scalar := by
    intro n v hv
    obtain ⟨text, htext, rfl, hvalue⟩ := hes.exists_text hv
    obtain ⟨r, hr, rfl⟩ := List.mem_map.1 htext
    rw [((h r hr).assigns p).valueOf_eq] at hvalue
    exact ⟨r, hr, ((Key.name_eq_field_iff r.field).2 r.keyOf_override).symm,
      (Except.ok.inj hvalue).symm⟩
  have haccepts : ∀ e ∈ es, Draft.Accepts e := by
    rintro ⟨k, v⟩ he
    obtain ⟨n, rfl⟩ := hnamed.texts _ he
    obtain ⟨r, hr, rfl, rfl⟩ := hentry n v (hnamed.mem_iff.1 he)
    exact ⟨r.field, rfl, (h r hr).suits⟩
  have hvalues : ∀ f, draftFrom es f = .value (Field.get c f) := by
    intro f
    rw [draftFrom]
    cases hv : Entries.get? es (.str f.name) with
    | some v =>
      obtain ⟨r, hr, hname, rfl⟩ := hentry _ _ hv
      obtain rfl := Field.name_injective hname
      exact (h r hr).taken_eq _
    | none =>
      have hf : f ∉ rs.map Reading.field := by
        intro hf
        obtain ⟨r, hr, rfl⟩ := List.mem_map.1 hf
        obtain ⟨v, hsome⟩ := hes.exists_value hheld (List.mem_map_of_mem hr)
        rw [(Key.name_eq_field_iff r.field).2 r.keyOf_override, hv] at hsome
        cases hsome
      rw [hrest f hf]
      rfl
  have hunescaped : ∀ f, f.kind.unescaped (Field.get c f) = Field.get c f := by
    intro f
    by_cases hf : f ∈ rs.map Reading.field
    · obtain ⟨r, hr, rfl⟩ := List.mem_map.1 hf
      exact (h r hr).unescaped_eq
    · rw [hrest f hf, unescaped_default]
  rw [load_of_accepts hcollect hnamed haccepts, loadDraft, settings_of_values p hvalues hunescaped]
  simp only [Except.mapError, bind, Except.bind, (complaint?_eq_none_iff c).2 hc]
  rfl

end Readings

/-! ### The text of settings -/

theorem readsAs_integer {i : Int} (h : i.natAbs < Nat.pow 10 Text.digitLimit) :
    ReadsAs (toString i) .integer i (.int i) :=
  ⟨fun _ => Value.read_toString h, rfl, rfl, rfl, rfl⟩

theorem readsAs_hex {n : Nat} (hn : 0 < n) :
    ReadsAs (String.ofList ('0' :: 'x' :: List.replicate n 'f')) .integer (16 ^ n - 1 : Nat)
      (.int (16 ^ n - 1 : Nat)) :=
  ⟨fun _ => Value.read_hex hn, rfl, rfl, rfl, rfl⟩

theorem one_le_hex {n : Nat} (hn : 0 < n) : (1 : Int) ≤ (16 ^ n - 1 : Nat) := by
  have hpow : 16 ^ 1 ≤ 16 ^ n := Nat.pow_le_pow_right (by decide) hn
  omega

theorem readsAs_flag (b : Bool) :
    ReadsAs (if b then "True" else "False") .flag b (.bool b) :=
  ⟨fun _ => Value.read_flag b, rfl, rfl, rfl, rfl⟩

theorem isOpened_eq_false {s : List Char} (h : '$' ∉ s) : Template.isOpened s = false := by
  induction s with
  | nil => rfl
  | cons c r ih =>
    obtain ⟨hc, hr⟩ := not_or.1 (mt List.mem_cons.2 h)
    unfold Template.isOpened
    split
    · next heq => exact absurd (List.cons.inj heq).1.symm hc
    · next heq =>
      obtain ⟨rfl, rfl⟩ := List.cons.inj heq
      exact ih hr
    · next heq => cases heq

theorem readsAs_letters {text : String} (hne : text.toList ≠ [])
    (hletters : ∀ c ∈ text.toList, c.isAlpha = true) (h : text ∉ Tag.special) :
    ReadsAs text .text text (.str text) := by
  have hopened : Template.isOpened text.toList = false :=
    isOpened_eq_false fun hmem => absurd (hletters _ hmem) (by decide)
  have hunset : (text == unsetMark) = false := by
    rw [beq_eq_false_iff_ne]
    rintro rfl
    exact absurd (hletters '?' (by decide)) (by decide)
  have hescape : text.toList.head? ≠ some '\\' := fun hhead =>
    absurd (hletters _ (List.mem_of_mem_head? hhead)) (by decide)
  exact ⟨fun _ => Value.read_of_letters hne hletters h, if_neg (by simp [hopened]), hunset, rfl,
    withoutEscape_eq_self hescape⟩

/-- The names that settings have to choose from are of letters, and not one of them is among the
    words with a meaning of their own. -/
theorem readsAs_name {name : String} (h : name ∈ timerModes ++ Scheme.names) :
    ReadsAs name .text name (.str name) := by
  have hall : ∀ n ∈ timerModes ++ Scheme.names,
      n.toList ≠ [] ∧ n.toList.all Char.isAlpha = true ∧ n ∉ Tag.special := by decide
  obtain ⟨hne, hletters, hspecial⟩ := hall name h
  exact readsAs_letters hne (List.all_eq_true.1 hletters) hspecial

theorem toList_uppercase_of_ascii {text : String} (h : ∀ c ∈ text.toList, c.toNat < 0x80) :
    (Text.uppercase text).toList = text.toList.map Char.toUpper := by
  rw [Text.uppercase, String.toList_ofList]
  generalize text.toList = s at h ⊢
  induction s with
  | nil => rfl
  | cons c r ih =>
    rw [List.flatMap_cons, Text.capital_of_lt (h c List.mem_cons_self),
      ih fun d hd => h d (List.mem_cons_of_mem _ hd)]
    rfl

/-- The name of a level in letters of any size. -/
theorem readsAs_level {level : String} (hascii : ∀ c ∈ level.toList, c.toNat < 0x80)
    (h : Text.uppercase level ∈ Log.levels) : ReadsAs level .text level (.str level) := by
  have hcapitals := toList_uppercase_of_ascii hascii
  have hlevels : ∀ l ∈ Log.levels, l.toList ≠ [] ∧ l.toList.all Char.isAlpha = true := by decide
  obtain ⟨hne, hletters⟩ := hlevels _ h
  rw [List.all_eq_true] at hletters
  rw [hcapitals] at hne hletters
  have hspecial : level ∉ Tag.special := by
    have hall : ∀ w ∈ Tag.special, Text.uppercase w ∉ Log.levels := by decide +kernel
    exact fun hmem => hall level hmem h
  refine readsAs_letters (fun hnil => hne (by rw [hnil]; rfl)) (fun c hc => ?_) hspecial
  rw [← Char.isAlpha_toUpper_eq_isAlpha]
  exact hletters _ (List.mem_map_of_mem hc)

/-- A field by the text of its value. -/
def reading (c : Settings) (f : Field) : Reading :=
  ⟨f, (f.kind.toScalar (Field.get c f)).text?.getD "", f.kind.toScalar (Field.get c f)⟩

/-- The overrides that give settings by the texts that are shown for them. -/
def overrides (c : Settings) : List String :=
  c.entries.map fun entry => entry.1 ++ "=" ++ entry.2.getD ""

theorem overrides_eq (c : Settings) :
    c.overrides = Field.all.map fun f => (c.reading f).override := by
  rw [overrides, entries, List.map_map]
  rfl

variable {c : Settings}

theorem fits_reading (hc : c.Valid) (hprintable : c.Printable)
    (hascii : ∀ ch ∈ c.logLevel.toList, ch.toNat < 0x80) (f : Field) :
    (c.reading f).Fits c := by
  have hinteger : ∀ i : Int, i.natAbs < Nat.pow 10 Text.digitLimit →
      ReadsAs ((Scalar.int i).text?.getD "") .integer i (.int i) := by
    intro i hi
    have htext : (Scalar.int i).text? = some (toString i) := Text.intText?_eq_some hi
    rw [htext]
    exact readsAs_integer hi
  have hflag : ∀ b : Bool, ReadsAs ((Scalar.bool b).text?.getD "") .flag b (.bool b) := by
    intro b
    cases b with
    | true => exact readsAs_flag true
    | false => exact readsAs_flag false
  unfold Reading.Fits reading
  dsimp only
  cases f with
  | scale | cyclesPerFrame | fps | seed | maxCycles =>
    exact hinteger _ (hprintable _ (by simp [Field.get]))
  | timerMode => exact readsAs_name (List.mem_append_left _ hc.timerMode_mem)
  | colorScheme => exact readsAs_name (List.mem_append_right _ hc.colorScheme_mem)
  | logLevel => exact readsAs_level hascii hc.logLevel_mem
  | trace | headless => exact hflag _

/-- **Settings are loaded from their text, and only such as make sense.**  The overrides of all
    fields may stand in any order. -/
theorem load_overrides (p : Loader) :
    (∀ given c, load p given = .ok c → c.Valid) ∧
    ∀ c : Settings, c.Valid → c.Printable → (∀ ch ∈ c.logLevel.toList, ch.toNat < 0x80) →
      ∀ given, given.Perm c.overrides → load p given = .ok c := by
  refine ⟨fun given c h => valid_of_load h, fun c hc hprintable hascii given hperm => ?_⟩
  obtain ⟨fields, rfl, hfields⟩ :
      ∃ fields : List Field, given = fields.map (fun f => (c.reading f).override) ∧
        fields.Perm Field.all := by
    rw [overrides_eq] at hperm
    change Relation.Comp (· = List.map _ ·) List.Perm given Field.all
    rw [List.eq_map_comp_perm]
    exact hperm
  have hall : ∀ f, f ∈ fields := fun f => hfields.mem_iff.2 (Field.mem_all f)
  have hnames : (fields.map c.reading).map Reading.field = fields := by
    rw [List.map_map]
    exact List.map_id _
  have hload : load p ((fields.map c.reading).map Reading.override) = .ok c := by
    refine load_readings p (fun r hr => ?_) (fun f hf => ?_) hc
    · obtain ⟨f, -, rfl⟩ := List.mem_map.1 hr
      exact fits_reading hc hprintable hascii f
    · rw [hnames] at hf
      exact absurd (hall f) hf
  rwa [List.map_map] at hload

/-- A negative seed, truth values and a level in letters of both sizes, from the last field to the
    first. -/
theorem load_overrides_backwards :
    load usualLoader ["max_cycles=16", "headless=True", "trace=True", "log_level=dEbUg", "seed=-30",
      "color_scheme=retro", "timer_mode=frame", "fps=60", "cycles_per_frame=10", "scale=8"] =
        .ok {
          timerMode := "frame", colorScheme := "retro", seed := -30, logLevel := "dEbUg",
          trace := true, headless := true, maxCycles := 16 } := by
  refine (load_overrides usualLoader).2 _ ((complaint?_eq_none_iff _).1 (by decide +kernel)) ?_ ?_ _ ?_
  · unfold Printable
    decide +kernel
  · have hascii : "dEbUg".toList.all (fun ch => ch.toNat < 0x80) = true := by decide
    exact fun ch hch => of_decide_eq_true (List.all_eq_true.1 hascii ch hch)
  · decide +kernel

end Settings

end Chip8
