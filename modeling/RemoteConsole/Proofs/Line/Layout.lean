import RemoteConsole.Command.Line

/-!
# How a line is laid out

A line is a row of lexemes with blanks before each of them and behind the last, and with
nothing else in between. `Lexeme.Fits` says how a lexeme is written, given what comes behind
it: a bare word runs to the next blank, and a quote at its beginning is one that is not met
again. `LaidOut` puts lexemes in a row. There is exactly one way to lay a line out, and it is
the one in which the line is read (`laidOut_iff`).

The main statement is `tokens_accounted`: what each token is of its lexeme, and that the line
and its tokens hold the same characters, blanks and quotes apart.
-/

namespace RemoteConsole

namespace Lexeme

theorem not_isBlank_of_isQuote {q : Char} (h : isQuote q = true) : Text.isBlank q = false := by
  simp only [isQuote, Bool.or_eq_true, beq_iff_eq] at h
  rcases h with rfl | rfl <;> simp

theorem upTo_append {q : Char} {t : List Char} (h : q ∉ t) (rest : List Char) :
    upTo q (t ++ q :: rest) = some (t, rest) := by
  induction t with
  | nil => simp [upTo]
  | cons c r ih =>
      rw [List.mem_cons, not_or] at h
      simp [upTo, Ne.symm h.1, ih h.2]

theorem upTo_eq_none_iff {q : Char} {s : List Char} : upTo q s = none ↔ q ∉ s := by
  induction s with
  | nil => simp [upTo]
  | cons c r ih =>
      by_cases hc : c = q
      · simp [upTo, hc]
      · simp [upTo, hc, ih, Ne.symm hc]

theorem not_mem_of_upTo {q : Char} {s text rest : List Char}
    (h : upTo q s = some (text, rest)) : q ∉ text := by
  induction s generalizing text with
  | nil => simp [upTo] at h
  | cons c r ih =>
      simp only [upTo] at h
      split at h
      · cases h
        simp
      · rename_i hc
        cases hr : upTo q r with
        | none => simp [hr] at h
        | some p =>
            obtain ⟨t, u⟩ := p
            simp only [hr, Option.map_some, Option.some.injEq, Prod.mk.injEq] at h
            obtain ⟨rfl, rfl⟩ := h
            simp [Ne.symm hc, ih hr]

/-- How a lexeme is written if `rest` comes behind it. -/
inductive Fits (rest : List Char) : Lexeme → Prop
  /-- A span ends at the first quote that equals the one it begins with. -/
  | span {quote : Char} {text : List Char} (hquote : isQuote quote = true)
      (htext : quote ∉ text) : Fits rest (.span quote text)
  /-- A bare word ends before a blank or with the line. A quote that it begins with is not
  met again. -/
  | bare {c : Char} {word : List Char} (hword : ∀ d ∈ c :: word, Text.isBlank d = false)
      (hend : ∀ d ∈ rest.head?, Text.isBlank d = true)
      (hopen : isQuote c = true → c ∉ word ++ rest) : Fits rest (.bare (c :: word))

theorem isBlank_of_mem_head?_dropWhile {s : List Char} {d : Char}
    (h : d ∈ (s.dropWhile (!Text.isBlank ·)).head?) : Text.isBlank d = true := by
  have hstop := List.head?_dropWhile_not (!Text.isBlank ·) s
  rw [Option.mem_def.1 h] at hstop
  simpa using hstop

theorem fits_first {c : Char} (hc : Text.isBlank c = false) (r : List Char) :
    (first c r).1.Fits (first c r).2 := by
  unfold first
  split
  · rename_i text rest hup
    split at hup
    · rename_i hquote
      exact .span hquote (not_mem_of_upTo hup)
    · cases hup
  · rename_i hup
    refine .bare ?_ (fun d hd => isBlank_of_mem_head?_dropWhile hd) ?_
    · intro d hd
      rcases List.mem_cons.1 hd with rfl | hd
      · exact hc
      · simpa using List.all_eq_true.1 List.all_takeWhile d hd
    · intro hquote
      rw [if_pos hquote] at hup
      rw [List.takeWhile_append_dropWhile]
      exact upTo_eq_none_iff.1 hup

/-- A blank-free word is one lexeme if a blank or nothing comes after it and it begins with
no quote that is met again. -/
theorem first_append {c : Char} {w rest : List Char} (hopen : isQuote c = true → c ∉ w ++ rest)
    (hw : ∀ d ∈ w, Text.isBlank d = false)
    (hrest : ∀ d ∈ rest.head?, Text.isBlank d = true) :
    first c (w ++ rest) = (bare (c :: w), rest) := by
  have hnone : (if isQuote c then upTo c (w ++ rest) else none) = none := by
    split
    · rename_i hquote
      exact upTo_eq_none_iff.2 (hopen hquote)
    · rfl
  have htake : (w ++ rest).takeWhile (!Text.isBlank ·) = w := by
    rw [List.takeWhile_append_of_pos (by simpa using hw)]
    cases rest with
    | nil => simp
    | cons d r => simp [hrest d rfl]
  have hdrop : (w ++ rest).dropWhile (!Text.isBlank ·) = rest := by
    rw [List.dropWhile_append_of_pos (by simpa using hw)]
    cases rest with
    | nil => simp
    | cons d r => simp [hrest d rfl]
  rw [first, hnone, htake, hdrop]

end Lexeme

/-- A lexeme that fits in front of a text is read there. -/
theorem lexemes_source_append {l : Lexeme} {rest : List Char} (h : l.Fits rest) :
    lexemes (l.source ++ rest) = l :: lexemes rest := by
  cases h with
  | @span quote text hquote htext =>
      have hsource : (Lexeme.span quote text).source ++ rest
          = quote :: (text ++ quote :: rest) := by
        simp
      have hfirst : Lexeme.first quote (text ++ quote :: rest) = (.span quote text, rest) := by
        rw [Lexeme.first, if_pos hquote, Lexeme.upTo_append htext]
      rw [hsource, lexemes_cons (Lexeme.not_isBlank_of_isQuote hquote), hfirst]
  | @bare c word hword hend hopen =>
      have hfirst : Lexeme.first c (word ++ rest) = (.bare (c :: word), rest) :=
        Lexeme.first_append hopen (fun d hd => hword d (List.mem_cons_of_mem c hd)) hend
      rw [Lexeme.source_bare, List.cons_append, lexemes_cons (hword c List.mem_cons_self), hfirst]

theorem lexemes_append_of_isBlank {w : List Char} (h : ∀ c ∈ w, Text.isBlank c = true)
    (s : List Char) : lexemes (w ++ s) = lexemes s := by
  induction w with
  | nil => rfl
  | cons c r ih =>
      rw [List.cons_append, lexemes_blank (h c (by simp)), ih fun d hd => h d (by simp [hd])]

/-- A text that is laid out as certain lexemes: blanks, or a lexeme that fits where it is,
with blanks before it. -/
inductive LaidOut : List Char → List Lexeme → Prop
  | done {gap : List Char} (hgap : ∀ c ∈ gap, Text.isBlank c = true) : LaidOut gap []
  | lexeme {gap rest : List Char} {l : Lexeme} {ls : List Lexeme}
      (hgap : ∀ c ∈ gap, Text.isBlank c = true) (hfits : l.Fits rest) (hrest : LaidOut rest ls) :
      LaidOut (gap ++ l.source ++ rest) (l :: ls)

theorem LaidOut.cons_blank {c : Char} (hc : Text.isBlank c = true) {s : List Char}
    {ls : List Lexeme} (h : LaidOut s ls) : LaidOut (c :: s) ls := by
  cases h with
  | done hgap => exact .done (by simpa [hc] using hgap)
  | @lexeme gap rest l ls hgap hfits hrest =>
      have hblank : ∀ d ∈ c :: gap, Text.isBlank d = true := by simpa [hc] using hgap
      exact .lexeme hblank hfits hrest

theorem laidOut_lexemes (s : List Char) : LaidOut s (lexemes s) := by
  fun_induction lexemes s with
  | case1 => exact .done (by simp)
  | case2 c r hc ih => exact ih.cons_blank hc
  | case3 c r hc _ ih =>
      have hfits := Lexeme.fits_first (by simpa using hc) r
      have hnone : ∀ d ∈ [], Text.isBlank d = true := by simp
      have hlaid := LaidOut.lexeme hnone hfits ih
      rwa [List.nil_append, Lexeme.source_first] at hlaid

/-- There is one way to lay a text out, and that is how it is read. -/
theorem laidOut_iff {s : List Char} {ls : List Lexeme} : LaidOut s ls ↔ ls = lexemes s := by
  constructor
  · intro h
    induction h with
    | done hgap => exact (lexemes_eq_nil_iff.2 hgap).symm
    | lexeme hgap hfits _ ih =>
        rw [List.append_assoc, lexemes_append_of_isBlank hgap, lexemes_source_append hfits, ih]
  · rintro rfl
    exact laidOut_lexemes s

theorem LaidOut.fits_of_mem {s : List Char} {ls : List Lexeme} (h : LaidOut s ls) {l : Lexeme}
    (hl : l ∈ ls) : ∃ before rest, s = before ++ l.source ++ rest ∧ l.Fits rest := by
  induction h with
  | done => cases hl
  | @lexeme gap rest m ls _ hfits _ ih =>
      rcases List.mem_cons.1 hl with rfl | hl
      · exact ⟨gap, rest, rfl, hfits⟩
      · obtain ⟨before, after, rfl, hafter⟩ := ih hl
        exact ⟨gap ++ m.source ++ before, after, by simp only [List.append_assoc], hafter⟩

namespace Lexeme

/-- A text without its blanks and quotes. -/
def core (s : List Char) : List Char := s.filter fun c => !Text.isBlank c && !isQuote c

theorem core_append (s t : List Char) : core (s ++ t) = core s ++ core t :=
  List.filter_append s t

theorem core_eq_nil_iff {s : List Char} :
    core s = [] ↔ ∀ c ∈ s, Text.isBlank c = true ∨ isQuote c = true := by
  simp [core, List.filter_eq_nil_iff, Classical.or_iff_not_imp_left]

theorem exists_dropOpening (w : List Char) :
    ∃ opening, w = opening ++ dropOpening w ∧ opening.length ≤ 1 ∧
      ∀ c ∈ opening, isQuote c = true := by
  cases w with
  | nil => exact ⟨[], by simp [dropOpening]⟩
  | cons c r =>
      cases hc : isQuote c with
      | false => exact ⟨[], by simp [dropOpening, hc]⟩
      | true => exact ⟨[c], by simp [dropOpening, hc]⟩

theorem exists_dropClosing (w : List Char) :
    ∃ closing, w = dropClosing w ++ closing ∧ closing.length ≤ 1 ∧
      ∀ c ∈ closing, isQuote c = true := by
  obtain ⟨opening, hw, hlength, hquote⟩ := exists_dropOpening w.reverse
  refine ⟨opening.reverse, ?_, by simpa using hlength, by simpa using hquote⟩
  rw [dropClosing, ← List.reverse_append, ← hw, List.reverse_reverse]

/-- A bare word is its token, with at most one quote before and one behind it. -/
theorem exists_token_bare (w : List Char) :
    ∃ opening closing, w = opening ++ (bare w).token ++ closing ∧ opening.length ≤ 1 ∧
      closing.length ≤ 1 ∧ ∀ c ∈ opening ++ closing, isQuote c = true := by
  obtain ⟨opening, hw, hopening, hquote⟩ := exists_dropOpening w
  obtain ⟨closing, hw', hclosing, hquote'⟩ := exists_dropClosing (dropOpening w)
  refine ⟨opening, closing, ?_, hopening, hclosing, ?_⟩
  · rw [token, List.append_assoc, ← hw', ← hw]
  · intro c hc
    exact (List.mem_append.1 hc).elim (hquote c) (hquote' c)

theorem mem_of_mem_token_bare {c : Char} {w : List Char} (h : c ∈ (bare w).token) : c ∈ w := by
  obtain ⟨opening, closing, hw, _⟩ := exists_token_bare w
  rw [hw]
  exact List.mem_append_left closing (List.mem_append_right opening h)

/-- A lexeme and its token differ in quotes only. -/
theorem core_source {l : Lexeme} {rest : List Char} (h : l.Fits rest) :
    core l.source = core l.token := by
  cases h with
  | @span quote text hquote _ => simp [core, token, hquote]
  | @bare c word _ _ _ =>
      obtain ⟨opening, closing, hword, _, _, hquote⟩ := exists_token_bare (c :: word)
      have hopening : core opening = [] :=
        core_eq_nil_iff.2 fun d hd => .inr (hquote d (List.mem_append_left closing hd))
      have hclosing : core closing = [] :=
        core_eq_nil_iff.2 fun d hd => .inr (hquote d (List.mem_append_right opening hd))
      calc core (bare (c :: word)).source
          = core opening ++ core (bare (c :: word)).token ++ core closing := by
            rw [← core_append, ← core_append, ← hword, source_bare]
        _ = core (bare (c :: word)).token := by
            rw [hopening, hclosing, List.nil_append, List.append_nil]

end Lexeme

/-- A text and the tokens it is laid out as differ in blanks and quotes only. -/
theorem LaidOut.core_eq {s : List Char} {ls : List Lexeme} (h : LaidOut s ls) :
    Lexeme.core (ls.flatMap Lexeme.token) = Lexeme.core s := by
  induction h with
  | done hgap => exact (Lexeme.core_eq_nil_iff.2 fun c hc => .inl (hgap c hc)).symm
  | @lexeme gap rest l ls hgap hfits _ ih =>
      have hnil : Lexeme.core gap = [] := Lexeme.core_eq_nil_iff.2 fun c hc => .inl (hgap c hc)
      rw [List.flatMap_cons, Lexeme.core_append, Lexeme.core_append, Lexeme.core_append, ih, hnil,
        List.nil_append, Lexeme.core_source hfits]

/-- Where a line's tokens come from, if the line is laid out as `ls`. -/
structure Accounted (line : String) (ls : List Lexeme) : Prop where
  laidOut : LaidOut line.toList ls
  tokens_eq : tokens line = ls.map fun l => String.ofList l.token
  core_eq : Lexeme.core ((tokens line).flatMap String.toList) = Lexeme.core line.toList
  /-- A token is the text between two equal quotes of the line, or a blank-free part of the
  line without at most one quote at each end. -/
  token : ∀ l ∈ ls, ∃ before after, line.toList = before ++ l.source ++ after ∧
    ((∃ quote, l = .span quote l.token ∧ Lexeme.isQuote quote = true ∧ quote ∉ l.token) ∨
      ∃ opening closing, l = .bare (opening ++ l.token ++ closing) ∧
        (∀ c ∈ l.source, Text.isBlank c = false) ∧ opening.length ≤ 1 ∧ closing.length ≤ 1 ∧
        ∀ c ∈ opening ++ closing, Lexeme.isQuote c = true)
  span_of_blank : ∀ l ∈ ls, (∃ c ∈ l.token, Text.isBlank c = true) →
    ∃ quote text, l = .span quote text
  quotes_of_empty : ∀ l ∈ ls, l.token = [] →
    (∃ quote, l = .span quote []) ∨ ∃ word, l = .bare word ∧ ∀ c ∈ word, Lexeme.isQuote c = true
  nil_iff : tokens line = [] ↔ ∀ c ∈ line.toList, Text.isBlank c = true

/-- Every line can be laid out in just one way, and that accounts for all its tokens and for
all its characters. -/
theorem tokens_accounted (line : String) :
    ∃ ls, Accounted line ls ∧ ∀ ms, LaidOut line.toList ms → ms = ls := by
  have hlaid := laidOut_lexemes line.toList
  refine ⟨lexemes line.toList, ?_, fun ms hms => laidOut_iff.1 hms⟩
  refine
    { laidOut := hlaid, tokens_eq := rfl, core_eq := ?_, token := ?_, span_of_blank := ?_,
      quotes_of_empty := ?_, nil_iff := tokens_eq_nil_iff }
  · rw [← hlaid.core_eq, tokens, List.flatMap_map]
    simp only [String.toList_ofList]
  · intro l hl
    obtain ⟨before, rest, hline, hfits⟩ := hlaid.fits_of_mem hl
    refine ⟨before, rest, hline, ?_⟩
    cases hfits with
    | @span quote text hquote htext => exact .inl ⟨quote, rfl, hquote, htext⟩
    | @bare c word hword _ _ =>
        obtain ⟨opening, closing, htoken, hends⟩ := Lexeme.exists_token_bare (c :: word)
        exact .inr ⟨opening, closing, congrArg Lexeme.bare htoken, hword, hends⟩
  · rintro l hl ⟨c, hc, hblank⟩
    obtain ⟨_, rest, _, hfits⟩ := hlaid.fits_of_mem hl
    cases hfits with
    | span _ _ => exact ⟨_, _, rfl⟩
    | bare hword _ _ => simp [hword c (Lexeme.mem_of_mem_token_bare hc)] at hblank
  · intro l hl hempty
    obtain ⟨_, rest, _, hfits⟩ := hlaid.fits_of_mem hl
    cases hfits with
    | @span quote text _ _ =>
        rw [Lexeme.token] at hempty
        exact .inl ⟨quote, by rw [hempty]⟩
    | @bare d word _ _ _ =>
        obtain ⟨opening, closing, htoken, _, _, hquote⟩ := Lexeme.exists_token_bare (d :: word)
        rw [hempty, List.append_nil] at htoken
        exact .inr ⟨_, rfl, by rwa [htoken]⟩

end RemoteConsole
