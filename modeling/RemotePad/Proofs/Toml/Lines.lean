import RemotePad.Proofs.Text.Numeral
import RemotePad.Toml.Document

/-!
# Lines that are read back

A document of lines with a bare key and a plain value each is read as these keys and values, one
after the other.

* `readValue_quoted`, `readValue_decimal`: a text in quotes reads as the text, and the digits of a
  number of 63 bits as the number; a date, a time or a float they are not.
* `Assignment.Readable`: what a line needs, and `readLine_line` for one line.
* `parse?_lines`: a whole document of such lines.
-/

namespace RemotePad.Toml

/-! ## Texts in quotes -/

/-- A character that stands for itself between quotes. -/
structure Quotable (c : Char) : Prop where
  printable : isPrintable c = true
  quote : c ≠ '"'
  backslash : c ≠ '\\'

theorem readBasicFrom_quotable {text : List Char} (quotable : ∀ c ∈ text, Quotable c)
    (rest : List Char) : readBasicFrom .plain (text ++ '"' :: rest) = some (text, rest) := by
  induction text with
  | nil => rfl
  | cons c text ih =>
    obtain ⟨hprintable, hquote, hbackslash⟩ := quotable c List.mem_cons_self
    have hothers := ih fun d hd => quotable d (List.mem_cons_of_mem c hd)
    simp only [List.cons_append, readBasicFrom, hquote, hbackslash, hprintable, if_false, if_true,
      hothers]
    rfl

/-- Any text with a character in it reads back from between quotes. -/
theorem readValue_quoted {text : List Char} (quotable : ∀ c ∈ text, Quotable c)
    (nonempty : text ≠ []) (fuel depth : Nat) (rest : List Char) :
    readValue (fuel + 1) depth ('"' :: text ++ '"' :: rest) = some (.string text, rest) := by
  obtain ⟨c, more, rfl⟩ := List.exists_cons_of_ne_nil nonempty
  have hquote := (quotable c List.mem_cons_self).quote
  have hstring : readString ('"' :: (c :: more ++ '"' :: rest)) = some (c :: more, rest) := by
    have htriple : ∀ more' : List Char, c :: more ++ '"' :: rest ≠ '"' :: '"' :: more' :=
      fun _ h => hquote (List.cons.inj h).1
    unfold readString
    split
    · next h => exact absurd (List.cons.inj h).2 (htriple _)
    · next h =>
      cases h
      exact readBasicFrom_quotable quotable rest
    · next h => exact absurd (List.cons.inj h).1 (by decide)
    · next h => exact absurd (List.cons.inj h).1 (by decide)
    · next _ single _ _ => exact (single _ rfl).elim
  have hplain : readPlainValue ('"' :: (c :: more ++ '"' :: rest)) =
      some (.string (c :: more), rest) := by
    simp only [readPlainValue, decide_true, Bool.true_or, if_true, hstring]
    rfl
  rw [List.cons_append, readValue]
  · exact hplain
  all_goals nofun

/-! ## Numbers -/

/-- What is left behind some digits of a line: the other digits, and the newline. -/
theorem eq_of_readDigits {digits rest more : List Char} {count value : Nat}
    (h : readDigits count (digits ++ '\n' :: rest) = some (value, more)) :
    more = digits.drop count ++ '\n' :: rest := by
  unfold readDigits at h
  simp only at h
  split at h
  · next hrun =>
    cases h
    have hcount : count ≤ digits.length := by
      refine Nat.le_of_not_lt fun hlt => ?_
      -- beyond the digits there is the newline
      obtain ⟨k, rfl⟩ := Nat.exists_eq_add_of_lt hlt
      have hmem : '\n' ∈ (digits ++ '\n' :: rest).take (digits.length + k + 1) := by
        rw [Nat.add_assoc, List.take_length_add_append]
        exact List.mem_append_right digits List.mem_cons_self
      exact absurd (List.all_eq_true.mp hrun.2 _ hmem) (by decide)
    exact List.drop_append_of_le_length hcount
  · cases h

/-- So no sign of a date or a time follows. -/
theorem readSymbol_of_readDigits {digits rest more : List Char} {count value : Nat} {sign : Char}
    (all : ∀ c ∈ digits, isDigitOf 10 c = true)
    (h : readDigits count (digits ++ '\n' :: rest) = some (value, more))
    (nodigit : isDigitOf 10 sign = false) (newline : '\n' ≠ sign) :
    readSymbol sign more = none := by
  rw [eq_of_readDigits h]
  cases hdrop : digits.drop count with
  | nil => exact if_neg newline
  | cons d ds =>
    have hd : d ∈ digits := List.mem_of_mem_drop (hdrop ▸ List.mem_cons_self)
    exact if_neg (ne_of_isDigitOf (all d hd) nodigit)

theorem readDateTime_of_digits {digits : List Char} (all : ∀ c ∈ digits, isDigitOf 10 c = true)
    (rest : List Char) : readDateTime (digits ++ '\n' :: rest) = none := by
  have hdate : readDate (digits ++ '\n' :: rest) = none := by
    cases hyear : readDigits 4 (digits ++ '\n' :: rest) with
    | none => simp [readDate, hyear]
    | some r =>
      have hsymbol := readSymbol_of_readDigits all hyear (by decide : isDigitOf 10 '-' = false)
        (by decide)
      simp [readDate, hyear, hsymbol]
  have htime : readTime (digits ++ '\n' :: rest) = none := by
    cases hhour : readTwo 0 23 (digits ++ '\n' :: rest) with
    | none => simp [readTime, hhour]
    | some r =>
      have hsymbol := readSymbol_of_readDigits all (Option.filter_eq_some_iff.mp hhour).1
        (by decide : isDigitOf 10 ':' = false) (by decide)
      simp [readTime, hhour, hsymbol]
  simp [readDateTime, hdate, htime]

theorem digitRun_digits {digits : List Char} (all : ∀ c ∈ digits, isDigitOf 10 c = true)
    (after : Bool) (rest : List Char) :
    digitRun 10 after (digits ++ '\n' :: rest) = (digits, '\n' :: rest) := by
  induction digits generalizing after with
  | nil =>
    have hnewline : isDigitOf 10 '\n' = false := by decide
    simp [digitRun, hnewline]
  | cons c digits ih =>
    have hothers := ih (fun d hd => all d (List.mem_cons_of_mem c hd)) true
    simp only [List.cons_append, digitRun, all c List.mem_cons_self, if_true, hothers]

/-- The digits of a number: a first one, which is a zero for zero only, and others. -/
theorem decimal_eq_cons (n : Nat) :
    ∃ d ds, decimal n = d :: ds ∧ isDigitOf 10 d = true ∧ (n ≠ 0 → d ≠ '0') := by
  obtain ⟨d, ds, hcons⟩ := List.exists_cons_of_ne_nil (numeral_ne_nil 10 n)
  refine ⟨d, ds, hcons, ?_, fun hn hzero => ?_⟩
  · exact isDigitOf_of_mem_numeral (by decide) (by decide) n d (hcons ▸ List.mem_cons_self)
  · refine head?_numeral_ne_zero (by decide : 1 < 10) (by decide) (Nat.pos_of_ne_zero hn) ?_
    rw [hcons, hzero]
    rfl

theorem readSign_digit {d : Char} (digit : isDigitOf 10 d = true) (rest : List Char) :
    readSign (d :: rest) = (false, d :: rest) := by
  unfold readSign
  split
  · next h => exact absurd (List.cons.inj h).1 (ne_of_isDigitOf digit (by decide))
  · next h => exact absurd (List.cons.inj h).1 (ne_of_isDigitOf digit (by decide))
  · rfl

theorem readSigned_decimal (n : Nat) (rest : List Char) :
    readSigned (decimal n ++ '\n' :: rest) = some (false, decimal n, '\n' :: rest) := by
  have all := isDigitOf_of_mem_numeral (by decide : 1 < 10) (by decide) n
  have hrun : digitRun 10 false (decimal n ++ '\n' :: rest) = (decimal n, '\n' :: rest) :=
    digitRun_digits all false rest
  obtain ⟨d, ds, hcons, digit, hzero⟩ := decimal_eq_cons n
  by_cases hn : n = 0
  · subst hn
    rfl
  · rw [hcons] at hrun ⊢
    have hdigits : digits? 10 (d :: ds ++ '\n' :: rest) = some (d :: ds, '\n' :: rest) := by
      simp only [digits?, hrun]
      rfl
    rw [List.cons_append] at hdigits ⊢
    unfold readSigned
    simp only [readSign_digit digit]
    split
    · next h => exact absurd (List.cons.inj h).1 (hzero hn)
    · rw [hdigits]
      rfl

theorem readFloat_decimal (n : Nat) (rest : List Char) :
    readFloat (decimal n ++ '\n' :: rest) = none := by
  have hdigits : readDigitFloat (decimal n ++ '\n' :: rest) = none := by
    simp only [readDigitFloat, readSigned_decimal, readFraction, readExponent, Option.bind_eq_bind,
      Option.bind_some]
    rfl
  have hspecial : readSpecialFloat (decimal n ++ '\n' :: rest) = none := by
    obtain ⟨d, ds, hcons, digit, _⟩ := decimal_eq_cons n
    rw [hcons, List.cons_append, readSpecialFloat, readSign_digit digit]
    simp only
    split
    · next h => exact absurd (List.cons.inj h).1 (ne_of_isDigitOf digit (by decide))
    · next h => exact absurd (List.cons.inj h).1 (ne_of_isDigitOf digit (by decide))
    · rfl
  rw [readFloat, hdigits, hspecial]
  rfl

theorem readInteger_decimal {n : Nat} (fits : n ≤ 9223372036854775807) (rest : List Char) :
    readInteger (decimal n ++ '\n' :: rest) = some (.integer n, '\n' :: rest) := by
  have hfits : fits64 n = true := by
    simp only [fits64, Bool.and_eq_true, decide_eq_true_eq]
    omega
  have hsigned : ((readSigned (decimal n ++ '\n' :: rest)).bind fun r =>
      integer? (signedValue r.1 (valueOf 10 r.2.1)) r.2.2) = some (.integer n, '\n' :: rest) := by
    have hvalue : valueOf 10 (decimal n) = n := valueOf_numeral (by decide) (by decide) n
    rw [readSigned_decimal, Option.bind_some]
    simp only [hvalue, signedValue, Bool.false_eq_true, if_false]
    exact if_pos hfits
  by_cases hn : n = 0
  · subst hn
    rfl
  · obtain ⟨d, ds, hcons, _, hzero⟩ := decimal_eq_cons n
    rw [hcons, List.cons_append] at hsigned ⊢
    unfold readInteger
    split
    · next h => exact absurd (List.cons.inj h).1 (hzero hn)
    · next h => exact absurd (List.cons.inj h).1 (hzero hn)
    · next h => exact absurd (List.cons.inj h).1 (hzero hn)
    · exact hsigned

/-- The digits of a number of 63 bits read as the number. -/
theorem readValue_decimal {n : Nat} (fits : n ≤ 9223372036854775807) (fuel depth : Nat)
    (rest : List Char) :
    readValue (fuel + 1) depth (decimal n ++ '\n' :: rest) =
      some (.integer n, '\n' :: rest) := by
  have all : ∀ c ∈ decimal n, isDigitOf 10 c = true :=
    isDigitOf_of_mem_numeral (by decide) (by decide) n
  have hnumeric : readNumeric (decimal n ++ '\n' :: rest) = some (.integer n, '\n' :: rest) := by
    rw [readNumeric, readDateTime_of_digits all, readFloat_decimal, readInteger_decimal fits]
    rfl
  obtain ⟨d, ds, hcons, digit, _⟩ := decimal_eq_cons n
  rw [hcons, List.cons_append] at hnumeric ⊢
  have other : ∀ c, isDigitOf 10 c = false → d ≠ c := fun c => ne_of_isDigitOf digit
  have hplain : readPlainValue (d :: (ds ++ '\n' :: rest)) = some (.integer n, '\n' :: rest) := by
    simp only [readPlainValue, other '"' (by decide), other '\'' (by decide),
      other 't' (by decide), other 'f' (by decide), digit, decide_false, Bool.or_false,
      Bool.or_true, Bool.true_or, Bool.false_eq_true, if_false, if_true, hnumeric]
  unfold readValue
  split
  · next h => exact absurd (List.cons.inj h).1 (other _ (by decide))
  · next h => exact absurd (List.cons.inj h).1 (other _ (by decide))
  · next h => exact absurd (List.cons.inj h).1 (other _ (by decide))
  · next h => exact absurd (List.cons.inj h).1 (other _ (by decide))
  · exact hplain

/-! ## Lines -/

/-- A line with a key without quotes and a value as it is written. -/
structure Assignment where
  key : Key
  written : List Char
  value : Value

namespace Assignment

/-- The characters of the line. -/
def line (a : Assignment) : List Char :=
  a.key ++ " = ".toList ++ a.written ++ ['\n']

/-- The key and its value. -/
def entry (a : Assignment) : Key × Value :=
  (a.key, a.value)

/-- The key is one without quotes, and the value is what is read in front of the newline. -/
structure Readable (a : Assignment) : Prop where
  bare : ∀ c ∈ a.key, isBareChar c = true
  nonempty : a.key ≠ []
  noReturn : '\r' ∉ a.written
  starts : ∀ rest, skipBlanks (a.written ++ '\n' :: rest) = a.written ++ '\n' :: rest
  reads : ∀ (fuel depth : Nat) (rest : List Char),
    readValue (fuel + 1) depth (a.written ++ '\n' :: rest) = some (a.value, '\n' :: rest)

end Assignment

/-- No key without quotes begins with a blank, a quote, or what opens a comment or a header. -/
theorem ne_of_isBareChar {c d : Char} (bare : isBareChar c = true) (other : isBareChar d = false) :
    c ≠ d := by
  rintro rfl
  rw [bare] at other
  cases other

theorem skipBlanks_cons {c : Char} (rest : List Char) (h : isBlank c = false) :
    skipBlanks (c :: rest) = c :: rest := by
  rw [skipBlanks, List.dropWhile_cons, h]
  rfl

theorem isBlank_of_isBareChar {c : Char} (bare : isBareChar c = true) : isBlank c = false := by
  have hspace : c ≠ ' ' := ne_of_isBareChar bare (by decide)
  have htab : c ≠ '\t' := ne_of_isBareChar bare (by decide)
  simp [isBlank, hspace, htab]

/-- A bare key is read up to the equals sign. -/
theorem readKeyPath_bare {key : Key} (bare : ∀ c ∈ key, isBareChar c = true)
    (nonempty : key ≠ []) (room : Nat) (rest : List Char) :
    readKeyPath (room + 1) (key ++ ' ' :: '=' :: rest) = some ([key], '=' :: rest) := by
  obtain ⟨c, ks, rfl⟩ := List.exists_cons_of_ne_nil nonempty
  have hc := bare c List.mem_cons_self
  have hblank : isBareChar ' ' = false := by decide
  have htake : (c :: ks ++ ' ' :: '=' :: rest).takeWhile isBareChar = c :: ks := by
    rw [List.takeWhile_append_of_pos bare, List.takeWhile_cons, hblank]
    simp
  have hdrop : (c :: ks ++ ' ' :: '=' :: rest).dropWhile isBareChar = ' ' :: '=' :: rest := by
    rw [List.dropWhile_append_of_pos bare, List.dropWhile_cons, hblank]
    rfl
  have hpart : readKeyPart (c :: ks ++ ' ' :: '=' :: rest) =
      some (c :: ks, ' ' :: '=' :: rest) := by
    rw [List.cons_append] at htake hdrop ⊢
    have hquote : c ≠ '"' := ne_of_isBareChar hc (by decide)
    have hsingle : c ≠ '\'' := ne_of_isBareChar hc (by decide)
    simp only [readKeyPart, hquote, hsingle, hc, htake, hdrop, if_false, if_true]
  have hskip : skipBlanks (c :: ks ++ ' ' :: '=' :: rest) = c :: ks ++ ' ' :: '=' :: rest :=
    skipBlanks_cons _ (isBlank_of_isBareChar hc)
  have hequals : skipBlanks (' ' :: '=' :: rest) = '=' :: rest := rfl
  rw [readKeyPath, hskip, hpart, Option.bind_some]
  simp only [hequals]
  rfl

theorem Assignment.line_append (a : Assignment) (rest : List Char) :
    a.line ++ rest = a.key ++ ' ' :: '=' :: ' ' :: (a.written ++ '\n' :: rest) := by
  simp [Assignment.line]

theorem readAssignment_line {a : Assignment} (readable : a.Readable) {root : Entries}
    (new : Entries.get? root a.key = none) (rest : List Char) :
    readAssignment ⟨root, []⟩ (a.line ++ rest) = some (⟨root ++ [a.entry], []⟩, rest) := by
  have hkey := readKeyPath_bare readable.bare readable.nonempty 78
    (' ' :: (a.written ++ '\n' :: rest))
  have hequals : readSymbol '=' ('=' :: ' ' :: (a.written ++ '\n' :: rest)) =
      some (' ' :: (a.written ++ '\n' :: rest)) := rfl
  have hskip : skipBlanks (' ' :: (a.written ++ '\n' :: rest)) = a.written ++ '\n' :: rest :=
    readable.starts rest
  have hend : readLineEnd ('\n' :: rest) = some rest := rfl
  have hinsert : modifyAt [] (insert [a.key] a.value) root = some (root ++ [a.entry]) := by
    have hnone : root.any (fun e => e.1 = a.key) = false := by
      rw [Entries.get?, Option.map_eq_none_iff, List.find?_eq_none] at new
      rw [List.any_eq_false]
      exact new
    simp only [modifyAt, insert, new, Entries.put, hnone]
    rfl
  have hlimit : nestingLimit - 1 = 78 + 1 := rfl
  rw [a.line_append]
  simp only [readAssignment, readKeyOfValue, hlimit, hkey, hequals, hskip, readable.reads, hend,
    hinsert, Option.bind_eq_bind, Option.bind_some, Option.pure_def]

/-- Such a line adds its entry. -/
theorem readLine_line {a : Assignment} (readable : a.Readable) {root : Entries}
    (new : Entries.get? root a.key = none) (rest : List Char) :
    readLine ⟨root, []⟩ (a.line ++ rest) = some (⟨root ++ [a.entry], []⟩, rest) := by
  have hread := readAssignment_line readable new rest
  obtain ⟨c, ks, hcons⟩ := List.exists_cons_of_ne_nil readable.nonempty
  have hc : isBareChar c = true := readable.bare c (hcons ▸ List.mem_cons_self)
  rw [a.line_append, hcons, List.cons_append] at hread ⊢
  unfold readLine
  split
  · next h => exact absurd (List.cons.inj h).1 (ne_of_isBareChar hc (by decide))
  · next h => exact absurd (List.cons.inj h).1 (ne_of_isBareChar hc (by decide))
  · next h => exact absurd (List.cons.inj h).1 (ne_of_isBareChar hc (by decide))
  · exact hread

/-! ## Documents -/

/-- Lines with new keys add their entries one after the other. -/
theorem readLines_lines {lines : List Assignment} (readable : ∀ a ∈ lines, a.Readable)
    {root : Entries} (distinct : (root.map Prod.fst ++ lines.map Assignment.key).Nodup)
    {fuel : Nat} (enough : lines.length < fuel) :
    readLines fuel ⟨root, []⟩ (lines.flatMap Assignment.line) =
      some (root ++ lines.map Assignment.entry) := by
  induction lines generalizing root fuel with
  | nil =>
    obtain ⟨fuel, rfl⟩ := Nat.exists_eq_succ_of_ne_zero (Nat.ne_of_gt enough)
    simp [readLines, skipBlanks]
  | cons a lines ih =>
    obtain ⟨fuel, rfl⟩ := Nat.exists_eq_succ_of_ne_zero (Nat.ne_of_gt (Nat.zero_lt_of_lt enough))
    have ha := readable a List.mem_cons_self
    have new : Entries.get? root a.key = none := by
      rw [Entries.get?, Option.map_eq_none_iff, List.find?_eq_none]
      intro e he hsame
      refine List.nodup_append.mp distinct |>.2.2 e.1 (List.mem_map_of_mem he) a.key
        List.mem_cons_self (of_decide_eq_true hsame)
    have hline := readLine_line ha new (lines.flatMap Assignment.line)
    have hothers : readLines fuel ⟨root ++ [a.entry], []⟩ (lines.flatMap Assignment.line) =
        some (root ++ [a.entry] ++ lines.map Assignment.entry) :=
      ih (fun b hb => readable b (List.mem_cons_of_mem a hb))
        (by simpa [Assignment.entry] using distinct) (Nat.lt_of_succ_lt_succ enough)
    obtain ⟨c, ks, hcons⟩ := List.exists_cons_of_ne_nil ha.nonempty
    have hc : isBareChar c = true := ha.bare c (hcons ▸ List.mem_cons_self)
    have htext : a.line ++ lines.flatMap Assignment.line =
        c :: (ks ++ ' ' :: '=' :: ' ' :: (a.written ++ '\n' :: lines.flatMap Assignment.line)) := by
      rw [a.line_append, hcons, List.cons_append]
    rw [htext] at hline
    have hnewline : c ≠ '\n' := ne_of_isBareChar hc (by decide)
    rw [List.flatMap_cons, htext, readLines, skipBlanks_cons _ (isBlank_of_isBareChar hc)]
    simp only [hnewline, if_false, hline, Option.bind_some, hothers]
    simp

/-- Without carriage returns there is nothing to unify. -/
theorem unifyNewlines_of_noReturn {text : List Char} (noReturn : '\r' ∉ text) :
    unifyNewlines text = text := by
  induction text using unifyNewlines.induct with
  | case1 => rfl
  | case2 c => rfl
  | case3 c d rest hpair _ => exact absurd (hpair.1 ▸ List.mem_cons_self) noReturn
  | case4 c d rest hpair ih =>
    rw [unifyNewlines, if_neg hpair, ih fun hmem => noReturn (List.mem_cons_of_mem c hmem)]

theorem Assignment.noReturn_line {a : Assignment} (readable : a.Readable) : '\r' ∉ a.line := by
  intro hmem
  simp only [Assignment.line, List.mem_append] at hmem
  rcases hmem with ((hkey | hequals) | hwritten) | hnewline
  · exact ne_of_isBareChar (readable.bare _ hkey) (by decide) rfl
  · exact absurd hequals (by decide)
  · exact readable.noReturn hwritten
  · exact absurd hnewline (by decide)

/-- A document of such lines, each with a key of its own, is read as their entries. -/
theorem parse?_lines {lines : List Assignment} (readable : ∀ a ∈ lines, a.Readable)
    (distinct : (lines.map Assignment.key).Nodup) :
    parse? (lines.flatMap Assignment.line) = some (lines.map Assignment.entry) := by
  have hmark : dropMark (lines.flatMap Assignment.line) = lines.flatMap Assignment.line := by
    cases lines with
    | nil => rfl
    | cons a lines =>
      have ha := readable a List.mem_cons_self
      obtain ⟨c, ks, hcons⟩ := List.exists_cons_of_ne_nil ha.nonempty
      have hc : isBareChar c = true := ha.bare c (hcons ▸ List.mem_cons_self)
      have hmark : c ≠ '\uFEFF' := ne_of_isBareChar hc (by decide)
      rw [List.flatMap_cons, a.line_append, hcons, List.cons_append, dropMark, if_neg hmark]
  have hunify : unifyNewlines (lines.flatMap Assignment.line) = lines.flatMap Assignment.line := by
    refine unifyNewlines_of_noReturn fun hmem => ?_
    obtain ⟨a, ha, hline⟩ := List.mem_flatMap.mp hmem
    exact Assignment.noReturn_line (readable a ha) hline
  have enough : lines.length < (lines.flatMap Assignment.line).length + 1 := by
    refine Nat.lt_succ_of_le ?_
    clear hmark hunify distinct readable
    induction lines with
    | nil => exact Nat.le_refl _
    | cons a lines ih =>
      rw [List.flatMap_cons, List.length_append, List.length_cons, Assignment.line,
        List.length_append]
      simp only [List.length_singleton]
      omega
  have hread : readLines ((lines.flatMap Assignment.line).length + 1) ⟨[], []⟩
      (lines.flatMap Assignment.line) = some ([] ++ lines.map Assignment.entry) :=
    readLines_lines readable (by simpa using distinct) enough
  rw [parse?, hmark, hunify]
  exact hread

end RemotePad.Toml
