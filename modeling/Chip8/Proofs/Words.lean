/-
  Chip8/Proofs/Words.lean
  =======================
  **A word is a document** — a text that is a single plain word is split into one token, which
  is read as one node, whose value is that of the plain scalar; so looking for words first makes
  no difference to what a text stands for.
-/
import Mathlib
import Chip8.Yaml.Value

namespace Chip8.Yaml

open Chip8.Text (splitSign)

/-! ### The characters of words -/

/-- A character that stands in words. -/
def isWordPart (c : Char) : Bool := isWordChar c || c == '+'

theorem ne_of_isWordPart {c d : Char} (hc : isWordPart c = true) (hd : isWordPart d = false) :
    c ≠ d := by
  rintro rfl
  rw [hc] at hd
  cases hd

theorem beq_of_isWordPart {c d : Char} (hc : isWordPart c = true) (hd : isWordPart d = false) :
    (c == d) = false :=
  beq_eq_false_iff_ne.2 (ne_of_isWordPart hc hd)

theorem isBlank_of_isWordPart {c : Char} (h : isWordPart c = true) : isBlank c = false := by
  have hne : ∀ d, isWordPart d = false → (c == d) = false := fun d hd => beq_of_isWordPart h hd
  simp [isBlank, hne, isWordPart, isWordChar]

theorem isBreak_of_isWordPart {c : Char} (h : isWordPart c = true) : isBreak c = false := by
  have hne : ∀ d, isWordPart d = false → (c == d) = false := fun d hd => beq_of_isWordPart h hd
  simp [isBreak, hne, isWordPart, isWordChar]

theorem isReadable_of_isWordPart {c : Char} (h : isWordPart c = true) : isReadable c = true := by
  have hbounds : 0x20 ≤ c.toNat ∧ c.toNat ≤ 0x7E := by
    simp only [isWordPart, isWordChar, Char.isAlphanum, Char.isAlpha, Char.isUpper, Char.isLower,
      Char.isDigit, Bool.or_eq_true, Bool.and_eq_true, decide_eq_true_eq, beq_iff_eq, ge_iff_le,
      UInt32.le_iff_toNat_le] at h
    rcases h with ((((h | h) | h) | rfl) | rfl) | rfl
    · exact ⟨le_trans (by decide) h.1, le_trans h.2 (by decide)⟩
    · exact ⟨le_trans (by decide) h.1, le_trans h.2 (by decide)⟩
    · exact ⟨le_trans (by decide) h.1, le_trans h.2 (by decide)⟩
    · decide
    · decide
    · decide
  simp [isReadable, hbounds]

/-- A text that is a plain word: what it consists of, and what it does not start with. -/
structure IsWord (s : List Char) : Prop where
  ne_nil : s ≠ []
  parts : ∀ c ∈ s, isWordPart c = true
  unmarked : startsMarker s = false
  continued : ∀ r, s = '-' :: r → startsBlank r = false

namespace Scalar

theorem isPlainWord_iff {s : List Char} :
    isPlainWord s = true ↔ (splitSign s).2 ≠ [] ∧
      ∀ c ∈ (splitSign s).2, (c.isAlphanum || c == '_') = true := by
  simp [isPlainWord, Tag.allOf]

theorem splitSign_cases (s : List Char) :
    (∃ r, s = '-' :: r ∧ (splitSign s).2 = r) ∨ (∃ r, s = '+' :: r ∧ (splitSign s).2 = r) ∨
      (splitSign s).2 = s ∧ ∀ r, s ≠ '-' :: r := by
  unfold splitSign
  split
  · exact Or.inl ⟨_, rfl, rfl⟩
  · exact Or.inr (Or.inl ⟨_, rfl, rfl⟩)
  · next hminus _ => exact Or.inr (Or.inr ⟨rfl, hminus⟩)

theorem isWord_of_isPlainWord {s : List Char} (h : isPlainWord s = true) : IsWord s := by
  obtain ⟨hne, hletters⟩ := isPlainWord_iff.1 h
  have hparts : ∀ c ∈ (splitSign s).2, isWordPart c = true := by
    intro c hc
    rw [isWordPart, isWordChar, hletters c hc, Bool.true_or, Bool.true_or]
  have hblank : startsBlank (splitSign s).2 = false := by
    cases hcons : (splitSign s).2 with
    | nil => exact absurd hcons hne
    | cons c r =>
      have hc := hparts c (hcons ▸ List.mem_cons_self)
      rw [startsBlank, isBlank_of_isWordPart hc, isBreak_of_isWordPart hc, Bool.or_self]
  have hhyphen : '-' ∉ (splitSign s).2 := fun hmem => absurd (hletters _ hmem) (by decide)
  have hpoint : '.' ∉ (splitSign s).2 := fun hmem => absurd (hletters _ hmem) (by decide)
  rcases splitSign_cases s with ⟨r, rfl, hr⟩ | ⟨r, rfl, hr⟩ | ⟨hs, hminus⟩
  · rw [hr] at hparts hblank hhyphen
    refine ⟨nofun, List.forall_mem_cons.2 ⟨by decide, hparts⟩, ?_, ?_⟩
    · unfold startsMarker
      split
      · next heq =>
        cases heq
        exact absurd List.mem_cons_self hhyphen
      · next heq => cases heq
      · rfl
    · rintro r' ⟨⟩
      exact hblank
  · rw [hr] at hparts
    exact ⟨nofun, List.forall_mem_cons.2 ⟨by decide, hparts⟩, rfl, nofun⟩
  · rw [hs] at hne hparts hpoint
    refine ⟨hne, hparts, ?_, fun r hr => absurd hr (hminus r)⟩
    unfold startsMarker
    split
    · exact absurd rfl (hminus _)
    · exact absurd List.mem_cons_self hpoint
    · rfl

end Scalar

/-! ### Tokens -/

namespace Splitting

variable {s : List Char}

theorem plainChunk_of_parts (h : ∀ c ∈ s, isWordPart c = true) :
    plainChunk false s = .ok (s, []) := by
  induction s with
  | nil => rfl
  | cons c r ih =>
    obtain ⟨hc, hr⟩ := List.forall_mem_cons.1 h
    have hcolon : (c == ':') = false := beq_of_isWordPart hc (by decide)
    rw [plainChunk, isBlank_of_isWordPart hc, isBreak_of_isWordPart hc, hcolon, ih hr]
    rfl

/-- A word in a text without blocks is one chunk. -/
theorem plainText_of_isWord (h : IsWord s) (fuel : Nat) :
    plainText false (-1) (fuel + 1) 0 [] false s = .ok (s, [], false) := by
  have hcomment : (s.head? == some '#') = false := by
    rw [beq_eq_false_iff_ne]
    intro hhead
    exact ne_of_isWordPart (h.parts _ (List.mem_of_mem_head? hhead)) (by decide) rfl
  have hchunk : s.isEmpty = false := by
    simpa using h.ne_nil
  rw [plainText, h.unmarked, hcomment, plainChunk_of_parts h.parts]
  simp [bind, Except.bind, hchunk, blanks, List.span, List.span.loop]

/-- Moving over characters on one line. -/
theorem repeat_skip (S : Splitting) (n : Nat) (hn : n ≤ S.rest.length)
    (h : ∀ c ∈ S.rest, isWordPart c = true) :
    n.repeat skip S =
      { S with rest := S.rest.drop n, index := S.index + n, column := S.column + n } := by
  induction n with
  | zero => rfl
  | succ n ih =>
    rw [Nat.repeat, ih (Nat.le_of_succ_le hn), skip]
    dsimp only
    cases hrest : S.rest.drop n with
    | nil =>
      have hlength := List.drop_eq_nil_iff.1 hrest
      omega
    | cons c r =>
      have hc : isBreak c = false :=
        isBreak_of_isWordPart (h c (List.mem_of_mem_drop (hrest ▸ List.mem_cons_self)))
      have hr : S.rest.drop (n + 1) = r := by
        rw [← List.drop_drop, hrest]
        rfl
      simp only [hc, hr]
      rfl

/-- A word that has been split off, and the candidate for a key that is left. -/
def scanned (s : List Char) (k : Option KeyCandidate) (taken : Nat) : Splitting where
  rest := []
  index := s.length
  line := 0
  column := s.length
  indent := -1
  outer := []
  keyAllowed := false
  candidates := [k]
  tokens := #[(.scalar .plain (String.ofList s), .before s.length)]
  taken

/-- A word as a candidate for a key. -/
def wordCandidate (s : List Char) : KeyCandidate := ⟨0, false, 0, 0, 0, .before s.length⟩

theorem more_of_cons {S S' : Splitting} {c : Char} {r : List Char}
    (h : (S.toToken (S.rest.length + 1)).dropStale = .ok S') (hrest : S'.rest = c :: r) :
    S.more = (S'.closeBlocks S'.column S'.here).token c r := by
  simp only [more, h, bind, Except.bind, hrest]

theorem more_of_nil {S S' : Splitting}
    (h : (S.toToken (S.rest.length + 1)).dropStale = .ok S') (hrest : S'.rest = []) :
    S.more = S'.ending := by
  simp only [more, h, bind, Except.bind, hrest]

theorem startsPlain_of_isWord {c : Char} {r : List Char} (h : IsWord (c :: r)) :
    startsPlain false c r = true := by
  by_cases hminus : c = '-'
  · have hblank := h.continued r (by rw [hminus])
    cases r with
    | nil => cases hblank
    | cons d r =>
      obtain ⟨hd, -⟩ := Bool.or_eq_false_iff.1 hblank
      simp [startsPlain, hminus, hd]
  · have hc := h.parts c List.mem_cons_self
    have hmarks : ("-?:,[]\x7b\x7d#&*!|>'\"%@\x60".toList.contains c) = false := by
      rw [List.contains_eq_mem, decide_eq_false_iff_not]
      intro hmem
      have hall : ("-?:,[]\x7b\x7d#&*!|>'\"%@\x60".toList.all fun d =>
          d = '-' ∨ isWordPart d = false) = true := by decide
      rcases of_decide_eq_true (List.all_eq_true.1 hall c hmem) with hd | hd
      · exact hminus hd
      · exact ne_of_isWordPart hc hd rfl
    have hquestion : c ≠ '?' := ne_of_isWordPart hc (by decide)
    have hcolon : c ≠ ':' := ne_of_isWordPart hc (by decide)
    unfold startsPlain
    rw [hmarks]
    simp [hminus, hquestion, hcolon, isBlank_of_isWordPart hc, isBreak_of_isWordPart hc]

theorem plainToken_eq {S S' : Splitting} {text rest : List Char} {newLine : Bool}
    (hsave : S.saveCandidate = .ok S')
    (hread : plainText S'.inFlow S'.indent (S'.rest.length + 1) S'.column [] false S'.rest =
      .ok (text, rest, newLine)) :
    S.plainToken = .ok { (S'.skipTo rest).emit S'.here (.scalar .plain (String.ofList text)) with
      keyAllowed := newLine } := by
  simp only [plainToken, hsave, bind, Except.bind, reading, hread, Except.mapError]
  rfl

/-- At the start of a word stands a plain scalar. -/
theorem token_start {c : Char} {r : List Char} (h : IsWord (c :: r)) :
    (start (c :: r)).token c r = (start (c :: r)).plainToken := by
  have hc := h.parts c List.mem_cons_self
  have hne : ∀ d, isWordPart d = false → (c == d) = false := fun d hd => beq_of_isWordPart hc hd
  have hhyphen : (c == '-' && startsBlank r) = false := by
    rw [Bool.and_eq_false_imp]
    intro hminus
    exact h.continued r (by rw [beq_iff_eq.1 hminus])
  simp [token, start, hne, isWordPart, isWordChar, hhyphen, startsPlain_of_isWord h, h.unmarked,
    inFlow]

/-- The first token of a word is all of it. -/
theorem more_start (h : IsWord s) : (start s).more = .ok (scanned s (some (wordCandidate s)) 0) := by
  have hskip := repeat_skip { start s with candidates := [some (wordCandidate s)] } s.length
    (Nat.le_refl _) h.parts
  have hsave : (start s).saveCandidate =
      .ok { start s with candidates := [some (wordCandidate s)] } := rfl
  have hplain : (start s).plainToken = .ok (scanned s (some (wordCandidate s)) 0) := by
    rw [plainToken_eq hsave (plainText_of_isWord h s.length), skipTo]
    dsimp only [start, List.length_nil, Nat.sub_zero] at hskip ⊢
    rw [hskip]
    simp [scanned, emit, here]
  cases s with
  | nil => exact absurd rfl h.ne_nil
  | cons c r =>
    have hc := h.parts c List.mem_cons_self
    have hne : ∀ d, isWordPart d = false → (c == d) = false := fun d hd => beq_of_isWordPart hc hd
    have htoken : (start (c :: r)).toToken ((start (c :: r)).rest.length + 1) = start (c :: r) := by
      simp [toToken, start, hne, isWordPart, isWordChar, isBreak_of_isWordPart hc]
    have hstale : (start (c :: r)).dropStale = .ok (start (c :: r)) := rfl
    rw [more_of_cons ((congrArg dropStale htoken).trans hstale) rfl]
    exact (token_start h).trans hplain

/-- A word that has been split off, and the end of its text. -/
def ended (s : List Char) (taken : Nat) : Splitting where
  rest := []
  index := s.length
  line := 1
  column := 0
  indent := -1
  outer := []
  keyAllowed := false
  candidates := [none]
  tokens := #[(.scalar .plain (String.ofList s), .before s.length), (.streamEnd, .ending)]
  taken

theorem dropStale_scanned_none (s : List Char) (taken : Nat) :
    (scanned s none taken).dropStale = .ok (scanned s none taken) := rfl

/-- A long word is no key. -/
theorem dropStale_scanned_some (s : List Char) (taken : Nat) :
    (scanned s (some (wordCandidate s)) taken).dropStale =
      .ok (scanned s (if 1024 < s.length then none else some (wordCandidate s)) taken) := by
  split
  · next hlong => simp [dropStale, scanned, wordCandidate, stale, hlong]
  · next hshort => simp [dropStale, scanned, wordCandidate, stale, hshort]

/-- After a word the text ends. -/
theorem more_scanned (h : IsWord s) {k : Option KeyCandidate} (hk : k.all (!·.required) = true)
    {taken : Nat} (hstale : (scanned s k taken).dropStale = .ok (scanned s k taken)) :
    (scanned s k taken).more = .ok (ended s taken) := by
  have hlength : s.length ≠ 0 := fun hzero => h.ne_nil (List.length_eq_zero_iff.1 hzero)
  have hmore : (scanned s k taken).more = (scanned s k taken).ending := more_of_nil hstale rfl
  rw [hmore]
  cases k with
  | none =>
    simp [ending, scanned, hlength, closeBlocks, inFlow, dropCandidate, emit, bind, Except.bind]
    rfl
  | some x =>
    have hrequired : x.required = false := by simpa using hk
    simp [ending, scanned, hlength, closeBlocks, inFlow, dropCandidate, emit, bind, Except.bind,
      hrequired]
    rfl

theorem settle_of_missing {S S' : Splitting} (hsize : S.tokens.size ≤ S.taken)
    (hmore : S.more = .ok S') (fuel : Nat) : S.settle (fuel + 1) = S'.settle fuel := by
  rw [settle, if_pos hsize, hmore]
  rfl

theorem settle_of_undecided {S S' S'' : Splitting} (hsize : S.taken < S.tokens.size)
    (hstale : S.dropStale = .ok S') (hundecided : S'.undecided = true) (hmore : S'.more = .ok S'')
    (fuel : Nat) : S.settle (fuel + 1) = S''.settle fuel := by
  rw [settle, if_neg (Nat.not_le.2 hsize), hstale]
  simp only [bind, Except.bind, hundecided, if_true, hmore]

theorem settle_of_decided {S S' : Splitting} (hsize : S.taken < S.tokens.size)
    (hstale : S.dropStale = .ok S') (hdecided : S'.undecided = false) (fuel : Nat) :
    S.settle (fuel + 1) = .ok S' := by
  rw [settle, if_neg (Nat.not_le.2 hsize), hstale]
  simp only [bind, Except.bind, hdecided, Bool.false_eq_true, if_false]

theorem peek_of_settle {S S' : Splitting} (h : S.settle (S.rest.length + 3) = .ok S') :
    S.peek = .ok (S'.tokens.getD S'.taken (.streamEnd, .ending), S') := by
  rw [Splitting.peek, h]
  rfl

/-- What is left of a word when its token is known: a long word cannot become a key, so that
    nothing after it is looked at. -/
inductive Settled (s : List Char) (taken : Nat) : Splitting → Prop
  | long : Settled s taken (scanned s none taken)
  | short : Settled s taken (ended s taken)

theorem Settled.peek {S : Splitting} (hS : Settled s 0 S) :
    S.peek = .ok ((.scalar .plain (String.ofList s), .before s.length), S) := by
  cases hS <;> rfl

theorem Settled.peek_take {S : Splitting} (hS : Settled s 0 S) (h : IsWord s) :
    ∃ S', S.take.peek = .ok ((.streamEnd, .ending), S') := by
  cases hS with
  | long =>
    have hmore := more_scanned h rfl (dropStale_scanned_none s 1)
    have hmissing : (scanned s none 1).tokens.size ≤ (scanned s none 1).taken := Nat.le_refl 1
    have hended : (ended s 1).settle 2 = .ok (ended s 1) := rfl
    exact ⟨_, peek_of_settle ((settle_of_missing hmissing hmore _).trans hended)⟩
  | short => exact ⟨_, rfl⟩

theorem peek_start (h : IsWord s) :
    ∃ S, Settled s 0 S ∧
      (start s).peek = .ok ((.scalar .plain (String.ofList s), .before s.length), S) := by
  have hmissing : (start s).tokens.size ≤ (start s).taken := Nat.le_refl 0
  have hfirst := settle_of_missing hmissing (more_start h) (s.length + 2)
  have hpresent : (scanned s (some (wordCandidate s)) 0).taken <
      (scanned s (some (wordCandidate s)) 0).tokens.size := Nat.zero_lt_one
  have hstale := dropStale_scanned_some s 0
  by_cases hlong : 1024 < s.length
  · rw [if_pos hlong] at hstale
    have hsettle := settle_of_decided hpresent hstale rfl (s.length + 1)
    exact ⟨_, .long, peek_of_settle (hfirst.trans hsettle)⟩
  · rw [if_neg hlong] at hstale
    have hsettle := settle_of_undecided hpresent hstale rfl (more_scanned h rfl hstale)
      (s.length + 1)
    have hended : (ended s 0).settle (s.length + 1) = .ok (ended s 0) := rfl
    exact ⟨_, .short, peek_of_settle (hfirst.trans (hsettle.trans hended))⟩

end Splitting

/-! ### Nodes -/

namespace Reading

open Splitting (Settled peek_start)

variable {α β : Type} {s : List Char} {c c' : Cursor}

theorem run_bind_of_ok {x : Reading α} {f : α → Reading β} {a : α} (h : x.run c = .ok (a, c')) :
    (x >>= f).run c = (f a).run c' := by
  rw [StateT.run_bind, h]
  rfl

theorem run_peekAt {t : Token × Place} {S : Splitting} (h : c.splitting.peek = .ok (t, S)) :
    peekAt.run c = .ok (t, { c with splitting := S }) := by
  have hget : (get : Reading Cursor).run c = .ok (c, c) := rfl
  have hlift : (liftM c.splitting.peek : Reading ((Token × Place) × Splitting)).run c =
      .ok ((t, S), c) := by
    rw [h]
    rfl
  unfold peekAt
  rw [run_bind_of_ok hget, run_bind_of_ok hlift]
  rfl

theorem run_peek {t : Token × Place} {S : Splitting} (h : c.splitting.peek = .ok (t, S)) :
    peek.run c = .ok (t.1, { c with splitting := S }) :=
  run_bind_of_ok (run_peekAt h)

theorem run_directives {style : Style} {text : String} {place : Place} {S : Splitting}
    (h : c.splitting.peek = .ok ((.scalar style text, place), S)) (fuel : Nat) :
    (directives false (fuel + 1)).run c =
      .ok ((), { c with splitting := S, handles := c.handles ++ standardHandles }) :=
  run_bind_of_ok (run_peek h)

theorem run_node {text : String} {place : Place} {S : Splitting}
    (h : c.splitting.peek = .ok ((.scalar .plain text, place), S))
    (h' : S.peek = .ok ((.scalar .plain text, place), S)) (fuel : Nat) :
    (node true false (fuel + 1)).run c =
      .ok (.scalar (Tag.ofPlain text) text place, { c with splitting := S.take }) := by
  rw [node, run_bind_of_ok (run_peekAt h)]
  have hproperties : properties.run { c with splitting := S } =
      .ok (({}, .scalar .plain text), { c with splitting := S }) :=
    run_bind_of_ok (run_peekAt (c := { c with splitting := S }) h')
  rw [run_bind_of_ok hproperties]
  rfl

theorem run_finish {S : Splitting} {place : Place}
    (h : c.splitting.peek = .ok ((.streamEnd, place), S)) (first : Place) (fuel : Nat) :
    (finish first (fuel + 1)).run c = .ok ((), { c with splitting := S }) := by
  have hends : (documentEnds (fuel + 1)).run c = .ok (.streamEnd, { c with splitting := S }) :=
    run_bind_of_ok (run_peek h)
  exact run_bind_of_ok hends

theorem run_document (h : IsWord s) {c : Cursor} (hc : c.splitting = Splitting.start s)
    (fuel : Nat) :
    ∃ c', (document (fuel + 1)).run c =
        .ok (.scalar (Tag.ofPlain (String.ofList s)) (String.ofList s) (.before s.length), c') ∧
      c'.overdrawn = c.overdrawn := by
  obtain ⟨S, hS, hfirst⟩ := peek_start h
  obtain ⟨S', hlast⟩ := hS.peek_take h
  have hagain := hS.peek
  rw [← hc] at hfirst
  refine ⟨{ c with splitting := S', handles := c.handles ++ standardHandles }, ?_, rfl⟩
  rw [document, run_bind_of_ok (run_peek hfirst)]
  dsimp only
  rw [run_bind_of_ok (run_directives (c := { c with splitting := S }) hagain fuel),
    run_bind_of_ok (run_node (c := { c with
      splitting := S, handles := c.handles ++ standardHandles }) hagain hagain fuel),
    run_bind_of_ok (run_finish (c := { c with
      splitting := S.take, handles := c.handles ++ standardHandles }) hlast _ fuel)]
  rfl

end Reading

theorem checkCharacters_of_isWord {s : List Char} (h : IsWord s) : checkCharacters s = .ok () := by
  have hreadable : s.dropWhile isReadable = [] :=
    List.dropWhile_eq_nil_iff.2 fun c hc => isReadable_of_isWordPart (h.parts c hc)
  rw [checkCharacters, hreadable]

theorem withoutOrderMark_of_isWord {s : List Char} (h : IsWord s) : withoutOrderMark s = s := by
  refine if_neg fun hhead => ?_
  exact ne_of_isWordPart (h.parts _ (List.mem_of_mem_head? hhead)) (by decide) rfl

theorem Node.ofText_of_isWord {s : List Char} (h : IsWord s) (copies : Option Nat) :
    ofText copies s =
      .ok (.scalar (Tag.ofPlain (String.ofList s)) (String.ofList s) (.before s.length)) := by
  obtain ⟨c', hrun, hcopies⟩ := Reading.run_document h
    (c := { splitting := Splitting.start s, copies := copies }) rfl (8 * s.length + 15)
  simp only [ofText, checkCharacters_of_isWord h, withoutOrderMark_of_isWord h, bind, Except.bind,
    hrun, hcopies]
  rfl

/-! ### Values -/

/-- The tags that forms name. -/
def Tag.formed : List Tag := [bool, null, default, merge, impossible, int, float, str]

theorem Tag.ofPlain_mem_formed (text : String) : ofPlain text ∈ formed := by
  have hform : ∀ text, ofForm text ∈ formed := by
    intro text
    unfold ofForm
    dsimp only
    repeat' split
    all_goals simp [formed]
  unfold ofPlain
  split
  · simp [formed]
  · exact hform _

namespace Node

variable {t : Tag} (ht : t ∈ Tag.formed) (text : String) (place : Place)
include ht

theorem scalarValue_of_formed :
    (scalar t text place).scalarValue = Scalar.ofText place t text := by
  unfold Tag.formed at ht
  fin_cases ht <;> rfl

theorem delayed_of_formed :
    (scalar t text place).delayed = (Scalar.ofText place t text).map fun _ => [] := by
  rw [← scalarValue_of_formed ht]
  unfold Tag.formed at ht
  fin_cases ht <;> rfl

end Node

namespace Value

theorem ofNode_of_formed {t : Tag} (ht : t ∈ Tag.formed) (text : String) (place : Place)
    (fuel : Nat) :
    ofNode (fuel + 1) (.scalar t text place) = (Scalar.ofText place t text).map scalar := by
  rw [← Node.scalarValue_of_formed ht]
  unfold Tag.formed at ht
  fin_cases ht <;> rfl

/-- The value of a document that is a word is that of a plain scalar. -/
theorem ofDocument_of_isWord {s : List Char} (h : IsWord s) (copies : Option Nat) :
    ofDocument copies s = (Scalar.ofPlain (String.ofList s)).map scalar := by
  have hformed := Tag.ofPlain_mem_formed (String.ofList s)
  have hplace : Scalar.ofText (.before s.length) (Tag.ofPlain (String.ofList s)) (String.ofList s) =
      Scalar.ofPlain (String.ofList s) := by
    rw [Scalar.ofPlain, String.length_ofList]
  rw [ofDocument, Node.ofText_of_isWord h]
  simp only [bind, Except.bind, Node.check, Node.delayed_of_formed hformed,
    ofNode_of_formed hformed, hplace]
  cases Scalar.ofPlain (String.ofList s) with
  | error e => rfl
  | ok x => rfl

/-- **A word is a document.**  That words are read without splitting them into tokens makes no
    difference to the values of texts. -/
theorem read_eq_ofDocument (copies : Option Nat) (text : String) :
    read copies text = ofDocument copies text.toList := by
  unfold read
  split
  · next hword =>
    rw [ofDocument_of_isWord (Scalar.isWord_of_isPlainWord hword), String.ofList_toList]
  · rfl

end Value

end Chip8.Yaml
