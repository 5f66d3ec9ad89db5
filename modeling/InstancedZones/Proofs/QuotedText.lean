import InstancedZones.Toml.Quoted

/-!
# Every text can be put in quotes

A text that is written in quotes is read back as the text it was, whatever characters it
holds, `readQuoted_writeQuoted`. There are four forms, but only two arguments. Inside
double quotes characters that would be taken for something else are escaped,
`Quoting.read_escapeText`; inside single quotes none can be, and the form is chosen only
for texts that need none, `Quoting.read_raw`.

Over several lines up to two quotation marks in a row belong to the text. So a reader that
has come upon some marks, but not enough to end the text, is still between two characters
of it, and owes the marks: `Mode.afterMarks`. Both arguments go by this state.
-/

namespace InstancedZones.Toml

variable {q : Quoting} {c mark : Char} {text next s after : List Char} {r n : Nat}

/-! ## Runs of quotation marks -/

/-- How the longest run and the current one go on. -/
def runStep (mark : Char) : Nat × Nat → Char → Nat × Nat :=
  fun (best, run) c => if c = mark then (max best (run + 1), run + 1) else (best, 0)

/-- No run of a character is longer than `n`, when the text comes after `run` of them. -/
def RunsWithin (mark : Char) (n : Nat) : Nat → List Char → Prop
  | _, [] => True
  | run, c :: rest =>
    if c = mark then run + 1 ≤ n ∧ RunsWithin mark n (run + 1) rest
    else RunsWithin mark n 0 rest

theorem foldl_runStep_le_iff (best run : Nat) :
    (text.foldl (runStep mark) (best, run)).1 ≤ n ↔ best ≤ n ∧ RunsWithin mark n run text := by
  induction text generalizing best run with
  | nil => exact (and_iff_left trivial).symm
  | cons c text ih =>
    rw [List.foldl_cons, RunsWithin, runStep]
    split
    · rw [ih, Nat.max_le, and_assoc]
    · exact ih best 0

/-- **The longest run** is the bound of all runs. -/
theorem longestRun_le_iff : longestRun mark text ≤ n ↔ RunsWithin mark n 0 text :=
  (foldl_runStep_le_iff 0 0).trans (and_iff_right (Nat.zero_le n))

/-! ## What is written for a character -/

/-- **What a character is written as** inside double quotes: an escape of one letter, a
line end, its code, or the character itself. -/
theorem escapeChar_cases (multiline : Bool) {mustEscape : Bool}
    (hquote : c = '"' → mustEscape = true) :
    (∃ letter, escaped? letter = some c ∧
        escapeChar multiline mustEscape c = ['\\', letter]) ∨
      (c = '\n' ∧ multiline = true ∧ escapeChar multiline mustEscape c = ['\n']) ∨
      (c.toNat < 256 ∧ escapeChar multiline mustEscape c
        = ['\\', 'u', '0', '0', hexDigit (c.toNat / 16), hexDigit (c.toNat % 16)]) ∨
      (isText c = true ∧ c ≠ '"' ∧ c ≠ '\\' ∧ c ≠ '\n' ∧
        escapeChar multiline mustEscape c = [c]) := by
  unfold escapeChar
  by_cases hback : c = '\x08'
  · exact .inl ⟨'b', by rw [hback]; rfl, if_pos hback⟩
  rw [if_neg hback]
  by_cases htab : c = '\t'
  · exact .inl ⟨'t', by rw [htab]; rfl, if_pos htab⟩
  rw [if_neg htab]
  by_cases hline : c = '\n'
  · rw [if_pos hline]
    cases multiline with
    | true => exact .inr (.inl ⟨hline, rfl, rfl⟩)
    | false => exact .inl ⟨'n', by rw [hline]; rfl, rfl⟩
  rw [if_neg hline]
  by_cases hfeed : c = '\x0c'
  · exact .inl ⟨'f', by rw [hfeed]; rfl, if_pos hfeed⟩
  rw [if_neg hfeed]
  by_cases hreturn : c = '\r'
  · exact .inl ⟨'r', by rw [hreturn]; rfl, if_pos hreturn⟩
  rw [if_neg hreturn]
  by_cases hmark : c = '"'
  · rw [if_pos hmark, hquote hmark]
    exact .inl ⟨'"', by rw [hmark]; rfl, rfl⟩
  rw [if_neg hmark]
  by_cases hslash : c = '\\'
  · exact .inl ⟨'\\', by rw [hslash]; rfl, if_pos hslash⟩
  rw [if_neg hslash]
  by_cases hcontrol : c < ' ' ∨ c = '\x7f'
  · refine .inr (.inr (.inl ⟨?_, if_pos hcontrol⟩))
    obtain hlow | rfl := hcontrol
    · exact Nat.lt_trans hlow (by decide)
    · decide
  · obtain ⟨hlow, hdelete⟩ := not_or.mp hcontrol
    have htext : isText c = true := by simp [isText, hdelete, Char.not_lt.mp hlow]
    exact .inr (.inr (.inr ⟨htext, hmark, hslash, hline, if_neg hcontrol⟩))

/-- What is written for a character begins with a backslash or is the character, but is no
quotation mark that must be escaped; and there is no carriage return in it. -/
theorem escapeChar_spec (multiline mustEscape : Bool) (c : Char) :
    (∃ d rest, escapeChar multiline mustEscape c = d :: rest ∧
        (d = '\\' ∨ d = c ∧ (mustEscape = true → c ≠ '"'))) ∧
      '\r' ∉ escapeChar multiline mustEscape c := by
  by_cases hquote : c = '"' → mustEscape = true
  · obtain ⟨letter, hletter, hchars⟩ | ⟨rfl, -, hchars⟩ | ⟨hcode, hchars⟩ |
      ⟨htext, hne, -, -, hchars⟩ := escapeChar_cases multiline hquote
    · have hreturn : '\r' ≠ letter := by
        rintro rfl
        exact absurd hletter (by simp [escaped?])
      rw [hchars]
      exact ⟨⟨_, _, rfl, .inl rfl⟩, by simp [hreturn]⟩
    · rw [hchars]
      exact ⟨⟨_, _, rfl, .inr ⟨rfl, fun _ => by decide⟩⟩, by decide⟩
    · have hhex : ∀ n < 16, '\r' ≠ hexDigit n := by decide
      rw [hchars]
      refine ⟨⟨_, _, rfl, .inl rfl⟩, ?_⟩
      simp [hhex _ (show c.toNat / 16 < 16 by omega),
        hhex _ (Nat.mod_lt c.toNat (show 0 < 16 by decide))]
    · have hreturn : '\r' ≠ c := by
        rintro rfl
        exact absurd htext (by decide)
      rw [hchars]
      exact ⟨⟨_, _, rfl, .inr ⟨rfl, fun _ => hne⟩⟩, by simp [hreturn]⟩
  · obtain ⟨rfl, hplain⟩ := Classical.not_imp.mp hquote
    obtain rfl := Bool.eq_false_iff.mpr hplain
    exact ⟨⟨'"', [], rfl, .inr ⟨rfl, fun h => absurd h (by decide)⟩⟩, by cases multiline <;> decide⟩

/-- What is not hidden can stand in a line, unless it is a line end. -/
theorem isText_of_not_isHidden (h : isHidden c = false) (hline : c ≠ '\n') :
    isText c = true := by
  obtain ⟨hlow, hdelete⟩ := (Bool.or_eq_false_iff).mp h
  by_cases htab : c = '\t'
  · rw [htab]
    decide
  · have hshown : ' ' ≤ c := by simpa [htab, hline] using hlow
    simpa [isText, hshown, htab] using hdelete

/-! ## Reading up to the closing marks -/

/-- Where a reader stands that has come upon so many quotation marks in a row. -/
def Mode.afterMarks : Nat → Mode
  | 0 => .plain
  | count + 1 => .marks (count + 1)

namespace Quoting

/-- Fewer marks belong to the text than end it. -/
theorem inner_lt_closing (q : Quoting) : q.inner < q.closing := by
  unfold inner closing
  split <;> decide

/-- Too few marks do not end the text. -/
theorem ends_afterMarks (h : r < q.closing) (c : Option Char) :
    q.ends (.afterMarks r) c = none := by
  cases r with
  | zero => rfl
  | succ r => exact if_neg fun hends => absurd hends.1 (Nat.not_le.mpr h)

/-- One more mark is counted as long as the text could go on. -/
theorem read_mark (h : r < q.closing + q.inner) (s : List Char) :
    q.read (.afterMarks r) (q.mark :: s) = q.read (.afterMarks (r + 1)) s := by
  have hends : q.ends (.afterMarks r) (some q.mark) = none := by
    cases r with
    | zero => rfl
    | succ r => exact if_neg fun hends => hends.2.elim (absurd rfl) (Nat.ne_of_lt h)
  have hmove : q.move (.afterMarks r) q.mark = some ([], .afterMarks (r + 1)) := by
    cases r with
    | zero => exact if_pos rfl
    | succ r => exact if_pos rfl
  rw [read, hends]
  simp only [hmove, List.nil_append]
  exact Option.map_id_apply

/-- So are several. -/
theorem read_marks (h : r + n ≤ q.closing + q.inner) (s : List Char) :
    q.read (.afterMarks r) (List.replicate n q.mark ++ s) = q.read (.afterMarks (r + n)) s := by
  induction n generalizing r with
  | zero => rfl
  | succ n ih =>
    rw [List.replicate_succ, List.cons_append, read_mark (by omega), ih (by omega)]
    congr 2
    omega

/-- **The closing marks end the text**, and those that came right before them belong to
it. -/
theorem read_fence (h : r ≤ q.inner) (hc : c ≠ q.mark) :
    q.read (.afterMarks r) (q.fence ++ c :: after)
      = some (List.replicate r q.mark, c :: after) := by
  have hclosing := q.inner_lt_closing
  rw [fence, read_marks (by omega)]
  obtain ⟨count, hcount⟩ := Nat.exists_eq_succ_of_ne_zero (show r + q.closing ≠ 0 by omega)
  have hends : q.ends (.afterMarks (r + q.closing)) (some c) = some (List.replicate r q.mark) := by
    rw [hcount]
    refine (if_pos ⟨by omega, .inl fun heq => hc (Option.some.inj heq)⟩).trans ?_
    congr 2
    omega
  rw [read, hends]

/-- **A character other than the mark** is taken as it stands, and so are the marks before
it. -/
theorem read_cons (hr : r < q.closing) (hc : c ≠ q.mark) {mode : Mode}
    (hmove : q.plainMove c = some (text, mode)) (s : List Char) :
    q.read (.afterMarks r) (c :: s)
      = (q.read mode s).map fun (more, after) =>
          (List.replicate r q.mark ++ text ++ more, after) := by
  have hnext : q.move (.afterMarks r) c = some (List.replicate r q.mark ++ text, mode) := by
    cases r with
    | zero => exact hmove
    | succ r =>
      refine (if_neg hc).trans ?_
      rw [hmove]
      rfl
  rw [read, ends_afterMarks hr]
  simp only [hnext]

/-! ## Texts with escapes -/

section Escapes

variable (hescapes : q.escapes = true) (hmark : q.mark = '"')
include hescapes hmark

/-- A backslash starts an escape. -/
theorem read_backslash (hr : r < q.closing) (s : List Char) :
    q.read (.afterMarks r) ('\\' :: s)
      = (q.read .escape s).map fun (more, after) => (List.replicate r q.mark ++ more, after) := by
  have hmove : q.plainMove '\\' = some ([], .escape) := by
    rw [plainMove, hmark, if_neg (by decide), if_pos ⟨rfl, hescapes⟩]
  rw [read_cons hr (by rw [hmark]; decide) hmove]
  simp only [List.append_nil]

/-- An escape of one letter. -/
theorem read_escaped {letter : Char} (hletter : escaped? letter = some c) (hr : r < q.closing)
    (s : List Char) :
    q.read (.afterMarks r) ('\\' :: letter :: s)
      = (q.read .plain s).map fun (more, after) =>
          (List.replicate r q.mark ++ c :: more, after) := by
  rw [read_backslash hescapes hmark hr, read]
  simp only [ends, move, hletter, Option.map_map]
  rfl

/-- An escape by the code of a character. -/
theorem read_code (hcode : c.toNat < 256) (hr : r < q.closing) (s : List Char) :
    q.read (.afterMarks r)
        ('\\' :: 'u' :: '0' :: '0' :: hexDigit (c.toNat / 16) :: hexDigit (c.toNat % 16) :: s)
      = (q.read .plain s).map fun (more, after) =>
          (List.replicate r q.mark ++ c :: more, after) := by
  have hhex : ∀ d < 16, Text.hexValue? (hexDigit d) = some d := by decide
  have hzero : Text.hexValue? '0' = some 0 := by decide
  have hescape : escaped? 'u' = none := by decide
  have hchar : Text.charOfCode? (c.toNat / 16 * 16 + c.toNat % 16) = some c := by
    have hvalid : c.toNat.isValidChar := c.valid
    rw [Nat.div_add_mod' c.toNat 16, Text.charOfCode?, if_pos hvalid, Char.ofNat_toNat]
  rw [read_backslash hescapes hmark hr]
  simp [read, ends, move, hescape, hzero, hhex _ (show c.toNat / 16 < 16 by omega),
    hhex _ (Nat.mod_lt c.toNat (show 0 < 16 by decide)), hchar, Option.map_map, Function.comp_def]

/-- **What is written for a character is read as the character**, the marks before it
included, as long as a quotation mark is escaped. -/
theorem read_escapeChar {mustEscape : Bool} (hquote : c = '"' → mustEscape = true)
    (hr : r < q.closing) (s : List Char) :
    q.read (.afterMarks r) (escapeChar q.multiline mustEscape c ++ s)
      = (q.read .plain s).map fun (more, after) =>
          (List.replicate r q.mark ++ c :: more, after) := by
  obtain ⟨letter, hletter, hchars⟩ | ⟨rfl, hlines, hchars⟩ | ⟨hcode, hchars⟩ |
    ⟨htext, hne, hslash, hline, hchars⟩ := escapeChar_cases q.multiline hquote
  · rw [hchars]
    exact read_escaped hescapes hmark hletter hr s
  · have hmove : q.plainMove '\n' = some (['\n'], .plain) := by
      rw [plainMove, hmark, if_neg (by decide), if_neg (fun h => absurd h.1 (by decide)),
        if_pos rfl, if_pos hlines]
    rw [hchars, List.singleton_append, read_cons hr (by rw [hmark]; decide) hmove]
    simp only [List.append_assoc, List.singleton_append]
  · rw [hchars]
    exact read_code hescapes hmark hcode hr s
  · have hmove : q.plainMove c = some ([c], .plain) := by
      rw [plainMove, hmark, if_neg hne, if_neg (fun h => hslash h.1), if_neg hline, if_pos htext]
    rw [hchars, List.singleton_append, read_cons hr (by rwa [hmark]) hmove]
    simp only [List.append_assoc, List.singleton_append]

/-- **A text that is escaped is read back**, together with the marks before it. -/
theorem read_escapeText (hr : r ≤ q.inner) (hc : c ≠ '"') :
    q.read (.afterMarks r) (escapeText q r text ++ (q.fence ++ c :: after))
      = some (List.replicate r q.mark ++ text, c :: after) := by
  induction text generalizing r with
  | nil => rw [escapeText, List.nil_append, List.append_nil, read_fence hr (by rwa [hmark])]
  | cons d text ih =>
    rw [escapeText, List.append_assoc]
    by_cases hquote : d = '"' ∧ ¬ q.inner ≤ r
    · -- one of the marks that may stand as they are
      obtain ⟨rfl, hfew⟩ := hquote
      have hchar : escapeChar q.multiline (decide (q.inner ≤ r)) '"' = [q.mark] := by
        rw [hmark, decide_eq_false hfew]
        rfl
      have hlt := Nat.lt_of_not_le hfew
      rw [hchar, List.singleton_append, read_mark (by omega), if_pos ⟨rfl, by simpa using hfew⟩,
        ih hlt, List.replicate_succ', List.append_assoc, hmark]
      rfl
    · have hescaped : d = '"' → decide (q.inner ≤ r) = true := fun heq =>
        decide_eq_true (Decidable.byContradiction fun hfew => hquote ⟨heq, hfew⟩)
      rw [read_escapeChar hescapes hmark hescaped (Nat.lt_of_le_of_lt hr q.inner_lt_closing),
        if_neg (by simpa using hquote)]
      have hrest := ih (Nat.zero_le q.inner)
      rw [Mode.afterMarks] at hrest
      rw [hrest]
      rfl

end Escapes

/-! ## Texts without escapes -/

/-- **A text without escapes is read back** if nothing in it is hidden, no row of marks is
too long, and it keeps to one line where it must. -/
theorem read_raw (hescapes : q.escapes = false) (hr : r ≤ q.inner)
    (hruns : RunsWithin q.mark q.inner r text) (hhidden : ∀ c ∈ text, isHidden c = false)
    (hlines : '\n' ∈ text → q.multiline = true) (hc : c ≠ q.mark) :
    q.read (.afterMarks r) (text ++ (q.fence ++ c :: after))
      = some (List.replicate r q.mark ++ text, c :: after) := by
  have hclosing := q.inner_lt_closing
  induction text generalizing r with
  | nil => rw [List.nil_append, List.append_nil, read_fence hr hc]
  | cons d text ih =>
    have hin := List.mem_cons_self (a := d) (l := text)
    have hhidden' := fun c hmem => hhidden c (List.mem_cons_of_mem d hmem)
    have hlines' := fun hmem => hlines (List.mem_cons_of_mem d hmem)
    rw [RunsWithin] at hruns
    split at hruns
    · next heq =>
      rw [heq, List.cons_append, read_mark (by omega),
        ih hruns.1 hruns.2 hhidden' hlines', List.replicate_succ', List.append_assoc]
      rfl
    · next hne =>
      have hmove : q.plainMove d = some ([d], .plain) := by
        rw [plainMove, if_neg hne, if_neg (by simp [hescapes])]
        by_cases hline : d = '\n'
        · rw [if_pos hline, if_pos (hlines (hline ▸ hin)), hline]
        · rw [if_neg hline, if_pos (isText_of_not_isHidden (hhidden d hin) hline)]
      have hrest := ih (Nat.zero_le _) hruns hhidden' hlines'
      rw [Mode.afterMarks] at hrest
      rw [List.cons_append, read_cons (Nat.lt_of_le_of_lt hr hclosing) hne hmove, hrest]
      simp

end Quoting

/-! ## Quoted texts -/

namespace Quoting

/-- What is written for a text between the quotation marks, apart from a line end right
behind the opening ones. -/
def body (q : Quoting) (text : List Char) : List Char :=
  if q.escapes then escapeText q 0 text else text

/-- **A form that can hold a text**: one with escapes, in double quotes, or one without, if
the text needs none. -/
def Holds (q : Quoting) (text : List Char) : Prop :=
  (q.escapes = true → q.mark = '"') ∧
    (q.escapes = false → RunsWithin q.mark q.inner 0 text ∧
      (∀ c ∈ text, isHidden c = false) ∧ ('\n' ∈ text → q.multiline = true))

/-- **The form that is chosen** is one of the four, and can hold the text. -/
theorem forText_spec (text : List Char) :
    (forText text = basic ∨ forText text = literal ∨ forText text = basicLines ∨
      forText text = literalLines) ∧ (forText text).Holds text := by
  have hbasic : basic.Holds text := ⟨fun _ => rfl, fun h => absurd h (by decide)⟩
  have hbasicLines : basicLines.Holds text := ⟨fun _ => rfl, fun h => absurd h (by decide)⟩
  generalize hform : forText text = form
  unfold forText at hform
  dsimp only at hform
  split at hform
  · subst hform
    exact ⟨.inl rfl, hbasic⟩
  split at hform
  · next h =>
    subst hform
    simp only [Bool.and_eq_true, Bool.not_eq_true', beq_iff_eq] at h
    obtain ⟨⟨hhidden, hsingle⟩, hline⟩ := h
    refine ⟨.inr (.inl rfl), fun h => absurd h (by decide), fun _ =>
      ⟨longestRun_le_iff.mp (Nat.le_of_eq hsingle), by simpa using hhidden, ?_⟩⟩
    exact fun hmem => absurd hmem (by simpa using hline)
  split at hform
  · subst hform
    exact ⟨.inr (.inr (.inl rfl)), hbasicLines⟩
  split at hform
  · next h =>
    subst hform
    simp only [Bool.and_eq_true, Bool.not_eq_true', decide_eq_true_eq] at h
    obtain ⟨hhidden, hsingle⟩ := h
    exact ⟨.inr (.inr (.inr rfl)), fun h => absurd h (by decide), fun _ =>
      ⟨longestRun_le_iff.mp hsingle, by simpa using hhidden, fun _ => rfl⟩⟩
  split at hform
  · subst hform
    exact ⟨.inr (.inr (.inl rfl)), hbasicLines⟩
  · subst hform
    exact ⟨.inl rfl, hbasic⟩

/-- **What a form that holds a text writes for it is read back.** -/
theorem read_body (h : q.Holds text) (hc : c ≠ q.mark) :
    q.read .plain (q.body text ++ (q.fence ++ c :: after)) = some (text, c :: after) := by
  unfold body
  cases hescapes : q.escapes with
  | true =>
    have hmark := h.1 hescapes
    exact read_escapeText hescapes hmark (Nat.zero_le _) (hmark ▸ hc)
  | false =>
    obtain ⟨hruns, hhidden, hlines⟩ := h.2 hescapes
    exact read_raw hescapes (Nat.zero_le _) hruns hhidden hlines hc

/-- It begins with a backslash or with the first character of the text; with no quotation
mark if none may stand as it is. -/
theorem body_cons {d : Char} (h : q.Holds (d :: text)) :
    ∃ e rest, q.body (d :: text) = e :: rest ∧
      (e = '\\' ∨ e = d ∧ (q.inner = 0 → d ≠ q.mark)) := by
  unfold body
  cases hescapes : q.escapes with
  | true =>
    obtain ⟨⟨e, rest, hchars, hfirst⟩, -⟩ := escapeChar_spec q.multiline (decide (q.inner ≤ 0)) d
    rw [if_pos rfl, escapeText, hchars]
    refine ⟨e, _, rfl, hfirst.imp_right fun ⟨heq, hquote⟩ => ⟨heq, fun hinner => ?_⟩⟩
    rw [h.1 hescapes]
    exact hquote (by rw [hinner]; rfl)
  | false =>
    obtain ⟨hruns, -, -⟩ := h.2 hescapes
    refine ⟨d, text, if_neg (by decide), .inr ⟨rfl, fun hinner heq => ?_⟩⟩
    rw [RunsWithin, if_pos heq, hinner] at hruns
    exact absurd hruns.1 (Nat.not_succ_le_zero 0)

/-- There is no carriage return in it. -/
theorem return_notMem_body (h : q.Holds text) : '\r' ∉ q.body text := by
  unfold body
  cases hescapes : q.escapes with
  | true =>
    rw [if_pos rfl]
    generalize 0 = run
    induction text generalizing run with
    | nil => exact List.not_mem_nil
    | cons d text ih =>
      rw [escapeText]
      exact List.not_mem_append (escapeChar_spec _ _ d).2
        (ih ⟨h.1, fun hfalse => absurd (hescapes.symm.trans hfalse) (by decide)⟩ _)
  | false => exact fun hmem => absurd ((h.2 hescapes).2.1 _ hmem) (by decide)

end Quoting

/-- A text on one line is read from behind its opening mark, unless two more follow. -/
theorem readQuoted_oneLine (hq : q = .basic ∨ q = .literal) (h : ∀ t, s ≠ q.mark :: q.mark :: t) :
    readQuoted (q.fence ++ s) = q.read .plain s := by
  obtain rfl | rfl := hq
  · exact readQuoted.eq_3 s (fun _ => h _) fun _ => h _
  · exact readQuoted.eq_6 s (fun _ => h _) fun _ => h _

/-- A text on several lines is read from behind its opening marks, a line end there left
out. -/
theorem readQuoted_lines (hq : q = .basicLines ∨ q = .literalLines) (s : List Char) :
    readQuoted (q.fence ++ '\n' :: s) = q.read .plain s ∧
      ((∀ t, s ≠ '\n' :: t) → readQuoted (q.fence ++ s) = q.read .plain s) := by
  obtain rfl | rfl := hq
  · exact ⟨rfl, readQuoted.eq_2 s⟩
  · exact ⟨rfl, readQuoted.eq_5 s⟩

/-- What is written for a text: the quotation marks and the text between them. -/
theorem writeQuoted_eq (text : List Char) :
    writeQuoted text = (Quoting.forText text).fence ++
      ((if (Quoting.forText text).multiline ∧ '\n' ∈ text then ['\n'] else []) ++
        ((Quoting.forText text).body text ++ (Quoting.forText text).fence)) := by
  rw [writeQuoted, Quoting.body]
  split <;> simp only [List.append_assoc, List.nil_append, List.cons_append]

/-- **Every text that is written in quotes is read back**, if no further quotation mark
comes after it. -/
theorem readQuoted_writeQuoted (text : List Char) (hdouble : c ≠ '"') (hsingle : c ≠ '\'') :
    readQuoted (writeQuoted text ++ c :: after) = some (text, c :: after) := by
  obtain ⟨hform, hholds⟩ := Quoting.forText_spec text
  rw [writeQuoted_eq]
  generalize Quoting.forText text = q at hform hholds ⊢
  have hc : c ≠ q.mark := by
    obtain rfl | rfl | rfl | rfl := hform <;> assumption
  have hread : q.read .plain (q.body text ++ (q.fence ++ c :: after)) = some (text, c :: after) :=
    Quoting.read_body hholds hc
  simp only [List.append_assoc]
  by_cases hlines : q = .basicLines ∨ q = .literalLines
  · obtain ⟨hline, hplain⟩ :=
      readQuoted_lines hlines (q.body text ++ (q.fence ++ c :: after))
    split
    · exact hline.trans hread
    · next hnone =>
      -- without a line end in it the text does not begin with one
      refine (hplain fun t heq => ?_).trans hread
      cases text with
      | nil => obtain rfl | rfl := hlines <;> exact absurd (List.cons.inj heq).1 (by decide)
      | cons d text =>
        obtain ⟨e, rest, hchars, hfirst⟩ := Quoting.body_cons hholds
        rw [hchars] at heq
        obtain ⟨rfl, -⟩ := List.cons.inj heq
        obtain hslash | ⟨rfl, -⟩ := hfirst
        · exact absurd hslash (by decide)
        · refine hnone ⟨?_, List.mem_cons_self⟩
          obtain rfl | rfl := hlines <;> rfl
  · have hone : q = .basic ∨ q = .literal := by
      obtain h | h | h | h := hform
      · exact .inl h
      · exact .inr h
      · exact absurd (.inl h) hlines
      · exact absurd (.inr h) hlines
    have hsingle : q.multiline = false ∧ q.inner = 0 ∧ q.mark ≠ '\\' ∧ q.fence = [q.mark] := by
      obtain rfl | rfl := hone <;> decide
    obtain ⟨hmulti, hinner, hslash, hfence⟩ := hsingle
    rw [if_neg fun h => absurd h.1 (by simp [hmulti]), List.nil_append]
    -- the text begins with no quotation mark, and if it is empty only one comes
    refine (readQuoted_oneLine hone fun t heq => ?_).trans hread
    cases text with
    | nil =>
      have hbody : q.body [] = [] := by
        unfold Quoting.body
        split <;> rfl
      rw [hbody, hfence, List.nil_append, List.singleton_append] at heq
      exact hc (List.cons.inj (List.cons.inj heq).2).1
    | cons d text =>
      obtain ⟨e, rest, hchars, hfirst⟩ := Quoting.body_cons hholds
      rw [hchars] at heq
      obtain ⟨rfl, -⟩ := List.cons.inj heq
      obtain heq | ⟨rfl, hne⟩ := hfirst
      · exact hslash heq
      · exact hne hinner rfl

/-- A text in quotes begins with a quotation mark, and there is no carriage return in it. -/
theorem writeQuoted_spec (text : List Char) :
    (∃ rest, writeQuoted text = '"' :: rest ∨ writeQuoted text = '\'' :: rest) ∧
      '\r' ∉ writeQuoted text := by
  obtain ⟨hform, hholds⟩ := Quoting.forText_spec text
  have hbody := Quoting.return_notMem_body hholds
  rw [writeQuoted_eq]
  generalize Quoting.forText text = q at hform hbody ⊢
  have hfence : '\r' ∉ q.fence := by
    obtain rfl | rfl | rfl | rfl := hform <;> decide
  refine ⟨?_,
    List.not_mem_append hfence (List.not_mem_append ?_ (List.not_mem_append hbody hfence))⟩
  · obtain rfl | rfl | rfl | rfl := hform
    · exact ⟨_, .inl rfl⟩
    · exact ⟨_, .inr rfl⟩
    · exact ⟨_, .inl rfl⟩
    · exact ⟨_, .inr rfl⟩
  · split <;> decide

end InstancedZones.Toml
