import Mathlib.Data.List.TakeWhile
import RemotePad.Net.SocketAddr.Reader
import RemotePad.Proofs.Text.Numeral

/-!
# Socket addresses that are read back

* `readIpv4_text`, `readIpv6_text`: an address is read back from its written form, and what is
  behind it is left.  A group is never taken for the beginning of a four-byte address, because no
  point follows it.
* `longestZeroRun_le`, `eq_around_zeros`: what `::` leaves out are zero groups.
* `parse?_chars`: a socket address is read back from its written form.
-/

namespace RemotePad

/-! ## Numbers -/

theorem readChar_cons (c : Char) (rest : List Char) : readChar c (c :: rest) = some rest :=
  if_pos rfl

/-- A number is read from its digits. -/
theorem readNumber_numeral {base n bound : Nat} {maxDigits : Option Nat} {zeros : Bool}
    {rest : List Char} (two : 1 < base) (small : base ≤ 16) (fits : n ≤ bound)
    (short : ∀ m ∈ maxDigits, (numeral base n).length ≤ m) (stops : StopsDigits base rest) :
    readNumber base maxDigits zeros bound (numeral base n ++ rest) = some (n, rest) := by
  have digits := isDigitOf_of_mem_numeral two small n
  have hlong : ¬ maxDigits.any (· < (numeral base n).length) = true := by
    cases maxDigits with
    | none => nofun
    | some m => simpa using short m rfl
  have hzeros : ¬ (!zeros && (numeral base n).head? == some '0' &&
      decide (1 < (numeral base n).length)) = true := by
    intro h
    simp only [Bool.and_eq_true, beq_iff_eq, decide_eq_true_eq] at h
    obtain ⟨⟨_, hhead⟩, hlength⟩ := h
    by_cases hn : n = 0
    · subst hn
      rw [numeral_of_lt (Nat.lt_trans Nat.zero_lt_one two)] at hlength
      exact absurd hlength (by decide)
    · exact head?_numeral_ne_zero two small (Nat.pos_of_ne_zero hn) hhead
  unfold readNumber
  rw [takeWhile_digits digits stops, dropWhile_digits digits stops, if_neg (numeral_ne_nil base n),
    if_neg hlong, if_neg hzeros, valueOf_numeral two small, if_neg (Nat.not_lt.mpr fits)]

/-- Without a digit there is no number. -/
theorem readNumber_of_stops {base bound : Nat} {maxDigits : Option Nat} {zeros : Bool}
    {text : List Char} (stops : StopsDigits base text) :
    readNumber base maxDigits zeros bound text = none := by
  rw [readNumber, if_pos (takeWhile_of_stops stops)]

/-- All digits are read. -/
theorem rest_of_readNumber {base bound n : Nat} {maxDigits : Option Nat} {zeros : Bool}
    {text rest : List Char} (h : readNumber base maxDigits zeros bound text = some (n, rest)) :
    rest = text.dropWhile (isDigitOf base) := by
  unfold readNumber at h
  simp only at h
  iterate 4
    split at h
    · cases h
  cases h
  rfl

theorem readPort_decimal {port : UInt16} {rest : List Char} (stops : StopsDigits 10 rest) :
    readPort (':' :: (decimal port.toNat ++ rest)) = some (port, rest) := by
  have hnumber : readNumber 10 none true 65535 (numeral 10 port.toNat ++ rest) =
      some (port.toNat, rest) :=
    readNumber_numeral (by decide) (by decide) (Nat.le_of_lt_succ port.toNat_lt) nofun stops
  simp only [readPort, readChar_cons, Option.bind_eq_bind, Option.bind_some, decimal, hnumber]
  exact congrArg (fun p => some (p, rest)) (UInt16.ofNat_toNat)

theorem readScope_decimal {scope : UInt32} {rest : List Char} (stops : StopsDigits 10 rest) :
    readScope ('%' :: (decimal scope.toNat ++ rest)) = some (scope, rest) := by
  have hnumber : readNumber 10 none true 4294967295 (numeral 10 scope.toNat ++ rest) =
      some (scope.toNat, rest) :=
    readNumber_numeral (by decide) (by decide) (Nat.le_of_lt_succ scope.toNat_lt) nofun stops
  simp only [readScope, readChar_cons, Option.bind_eq_bind, Option.bind_some, decimal, hnumber]
  exact congrArg (fun p => some (p, rest)) (UInt32.ofNat_toNat)

/-! ## Addresses of four bytes -/

theorem readOctet_decimal {b : UInt8} {rest : List Char} (stops : StopsDigits 10 rest) :
    readOctet (decimal b.toNat ++ rest) = some (b, rest) := by
  have hlength : (numeral 10 b.toNat).length ≤ 3 :=
    length_numeral_le (by decide) (Nat.lt_trans b.toNat_lt (by decide))
  have hnumber : readNumber 10 (some 3) false 255 (numeral 10 b.toNat ++ rest) =
      some (b.toNat, rest) :=
    readNumber_numeral (by decide) (by decide) (Nat.le_of_lt_succ b.toNat_lt)
      (fun m hm => by cases hm; exact hlength) stops
  rw [readOctet, decimal, hnumber]
  exact congrArg (fun p => some (p, rest)) (UInt8.ofNat_toNat)

theorem readIpv4_text (ip : Ipv4) {rest : List Char} (stops : StopsDigits 10 rest) :
    readIpv4 (ip.text ++ rest) = some (ip, rest) := by
  have point : ∀ more : List Char, StopsDigits 10 ('.' :: more) :=
    fun _ => stopsDigits_cons (by decide)
  have htext : ip.text ++ rest = decimal ip.a.toNat ++ '.' :: (decimal ip.b.toNat ++
      '.' :: (decimal ip.c.toNat ++ '.' :: (decimal ip.d.toNat ++ rest))) := by
    simp [Ipv4.text, joinWith]
  rw [htext]
  simp only [readIpv4, readOctet_decimal (point _), readOctet_decimal stops, readChar_cons,
    Option.bind_eq_bind, Option.bind_some]
  rfl

/-- Without a digit there is no address. -/
theorem readIpv4_of_stops {text : List Char} (stops : StopsDigits 10 text) :
    readIpv4 text = none := by
  rw [readIpv4, readOctet, readNumber_of_stops stops]
  rfl

/-- Without a point behind its digits there is none either. -/
theorem readIpv4_of_no_point {text : List Char}
    (noPoint : (text.dropWhile (isDigitOf 10)).head? ≠ some '.') : readIpv4 text = none := by
  cases hoctet : readOctet text with
  | none =>
    rw [readIpv4, hoctet]
    rfl
  | some r =>
    obtain ⟨⟨n, rest⟩, hnumber, rfl⟩ := Option.map_eq_some_iff.mp hoctet
    have hpoint : readChar '.' rest = none := by
      rw [rest_of_readNumber hnumber]
      cases hrest : text.dropWhile (isDigitOf 10) with
      | nil => rfl
      | cons c more =>
        rw [hrest] at noPoint
        exact if_neg fun hc => noPoint (congrArg some hc)
    simp only [readIpv4, hoctet, Option.bind_eq_bind, Option.bind_some, hpoint, Option.bind_none]

/-! ## Groups -/

theorem isDigitOf_sixteen {c : Char} (digit : isDigitOf 10 c = true) : isDigitOf 16 c = true := by
  unfold isDigitOf digitValue? at digit ⊢
  cases halpha : alphanumericValue? c with
  | none => simp [halpha] at digit
  | some d =>
    have hd : d < 10 := by
      by_cases hd : d < 10
      · exact hd
      · simp [halpha, hd] at digit
    simp [Nat.lt_trans hd (by decide : 10 < 16)]

theorem StopsDigits.ten {rest : List Char} (stops : StopsDigits 16 rest) : StopsDigits 10 rest :=
  fun c hc => by
    cases hdigit : isDigitOf 10 c with
    | false => rfl
    | true => exact absurd (isDigitOf_sixteen hdigit) (by rw [stops c hc]; decide)

/-- What may stand behind a group: no digit, and no point. -/
structure BehindGroup (rest : List Char) : Prop where
  stops : StopsDigits 16 rest
  noPoint : rest.head? ≠ some '.'

/-- What may stand behind the last group: no further group follows. -/
structure BehindGroups (rest : List Char) : Prop extends BehindGroup rest where
  noGroup : ∀ after, readChar ':' rest = some after → StopsDigits 16 after

theorem behindGroup_cons {c : Char} {rest : List Char} (digit : isDigitOf 16 c = false)
    (point : c ≠ '.') : BehindGroup (c :: rest) :=
  ⟨stopsDigits_cons digit, fun h => point (Option.some.inj h)⟩

/-- Anything but a digit, a point or a colon ends the groups. -/
theorem behindGroups_cons {c : Char} {rest : List Char} (digit : isDigitOf 16 c = false)
    (point : c ≠ '.') (colon : c ≠ ':') : BehindGroups (c :: rest) where
  toBehindGroup := behindGroup_cons digit point
  noGroup := by
    intro after h
    rw [readChar, if_neg colon] at h
    cases h

/-- So does a gap. -/
theorem behindGroups_gap (rest : List Char) : BehindGroups (':' :: ':' :: rest) where
  toBehindGroup := behindGroup_cons (by decide) (by decide)
  noGroup := by
    rintro after h
    cases h
    exact stopsDigits_cons (by decide)

theorem readGroup_numeral {g : UInt16} {rest : List Char} (behind : BehindGroup rest) :
    readGroup (numeral 16 g.toNat ++ rest) = some (g, rest) := by
  have hlength : (numeral 16 g.toNat).length ≤ 4 :=
    length_numeral_le (by decide) (Nat.lt_of_lt_of_le g.toNat_lt (by decide))
  have hnumber : readNumber 16 (some 4) true 65535 (numeral 16 g.toNat ++ rest) =
      some (g.toNat, rest) :=
    readNumber_numeral (by decide) (by decide) (Nat.le_of_lt_succ g.toNat_lt)
      (fun m hm => by cases hm; exact hlength) behind.stops
  rw [readGroup, hnumber]
  exact congrArg (fun p => some (p, rest)) (UInt16.ofNat_toNat)

theorem readGroup_of_stops {text : List Char} (stops : StopsDigits 16 text) :
    readGroup text = none := by
  rw [readGroup, readNumber_of_stops stops]
  rfl

/-- A group is not taken for a byte. -/
theorem readIpv4_numeral (g : UInt16) {rest : List Char} (behind : BehindGroup rest) :
    readIpv4 (numeral 16 g.toNat ++ rest) = none := by
  have digits := isDigitOf_of_mem_numeral (by decide : 1 < 16) (by decide) g.toNat
  generalize numeral 16 g.toNat = text at digits
  refine readIpv4_of_no_point ?_
  induction text with
  | nil =>
    rw [List.nil_append, dropWhile_of_stops behind.stops.ten]
    exact behind.noPoint
  | cons c more ih =>
    rw [List.cons_append, List.dropWhile_cons]
    split
    · exact ih fun d hd => digits d (List.mem_cons_of_mem c hd)
    · intro hpoint
      exact ne_of_isDigitOf (digits c List.mem_cons_self) (by decide) (Option.some.inj hpoint)

theorem readGroups_of_behind {rest : List Char} (behind : BehindGroups rest) (room : Nat)
    (first : Bool) : readGroups room first rest = ⟨[], false, rest⟩ := by
  cases room with
  | zero => rfl
  | succ room =>
    have none_here : ∀ start, (if first then some rest else readChar ':' rest) = start →
        start.bind readIpv4 = none ∧ start.bind readGroup = none := by
      rintro start rfl
      cases first with
      | true => exact ⟨readIpv4_of_stops behind.stops.ten, readGroup_of_stops behind.stops⟩
      | false =>
        cases hcolon : readChar ':' rest with
        | none => simp
        | some after =>
          have stops := behind.noGroup after hcolon
          simp [readIpv4_of_stops stops.ten, readGroup_of_stops stops]
    obtain ⟨hip, hgroup⟩ := none_here _ rfl
    simp only [readGroups, hip, hgroup, ite_self]

/-- Groups behind a first one, each with a colon before it. -/
def colonGroups (groups : List UInt16) : List Char :=
  groups.flatMap fun g => ':' :: numeral 16 g.toNat

theorem groupsText_cons (g : UInt16) (groups : List UInt16) :
    groupsText (g :: groups) = numeral 16 g.toNat ++ colonGroups groups := by
  induction groups generalizing g with
  | nil => exact (List.append_nil _).symm
  | cons next groups ih =>
    show numeral 16 g.toNat ++ ':' :: groupsText (next :: groups) = _
    rw [ih next, colonGroups, colonGroups, List.flatMap_cons, List.cons_append]

theorem behind_colonGroups {rest : List Char} (behind : BehindGroups rest)
    (groups : List UInt16) : BehindGroup (colonGroups groups ++ rest) := by
  cases groups with
  | nil => exact behind.toBehindGroup
  | cons g groups => exact behindGroup_cons (by decide) (by decide)

/-- A group with others behind it. -/
theorem readGroups_succ {g : UInt16} {groups : List UInt16} {rest : List Char} {room : Nat}
    {first : Bool} {text : List Char} (behind : BehindGroups rest)
    (start : (if first then some text else readChar ':' text) =
      some (numeral 16 g.toNat ++ (colonGroups groups ++ rest)))
    (others : readGroups room false (colonGroups groups ++ rest) = ⟨groups, false, rest⟩) :
    readGroups (room + 1) first text = ⟨g :: groups, false, rest⟩ := by
  have hbehind := behind_colonGroups behind groups
  simp only [readGroups, start, Option.bind_some, readIpv4_numeral g hbehind, ite_self,
    readGroup_numeral hbehind, others]

theorem readGroups_colonGroups {rest : List Char} (behind : BehindGroups rest)
    {groups : List UInt16} {room : Nat} (fits : groups.length ≤ room) :
    readGroups room false (colonGroups groups ++ rest) = ⟨groups, false, rest⟩ := by
  induction groups generalizing room with
  | nil => exact readGroups_of_behind behind room false
  | cons g groups ih =>
    cases room with
    | zero => exact absurd fits (Nat.not_succ_le_zero _)
    | succ room =>
      refine readGroups_succ behind ?_ (ih (Nat.le_of_succ_le_succ fits))
      simp [colonGroups, readChar_cons]

/-- Groups are read one after the other as far as they go. -/
theorem readGroups_groupsText {rest : List Char} (behind : BehindGroups rest)
    {groups : List UInt16} {room : Nat} (fits : groups.length ≤ room) :
    readGroups room true (groupsText groups ++ rest) = ⟨groups, false, rest⟩ := by
  cases groups with
  | nil => exact readGroups_of_behind behind room true
  | cons g groups =>
    cases room with
    | zero => exact absurd fits (Nat.not_succ_le_zero _)
    | succ room =>
      refine readGroups_succ behind ?_
        (readGroups_colonGroups behind (Nat.le_of_succ_le_succ fits))
      rw [groupsText_cons, List.append_assoc]
      rfl

/-! ## Runs of zero groups -/

/-- The run that is left out is no longer than the zeros from its start on. -/
theorem longestZeroRun_le (groups : List UInt16) :
    (longestZeroRun groups).2 ≤ zerosFrom groups (longestZeroRun groups).1 := by
  unfold longestZeroRun
  have kept : ∀ (places : List Nat) (best : Nat × Nat), best.2 ≤ zerosFrom groups best.1 →
      let r := places.foldl (fun best i =>
        if best.2 < zerosFrom groups i then (i, zerosFrom groups i) else best) best
      r.2 ≤ zerosFrom groups r.1 := by
    intro places
    induction places with
    | nil => exact fun _ h => h
    | cons i places ih =>
      intro best h
      refine ih _ ?_
      simp only
      split
      · exact Nat.le_refl _
      · exact h
  exact kept _ (0, 0) (Nat.zero_le _)

/-- Groups are those before a run of zeros, the zeros, and those behind it. -/
theorem eq_around_zeros {groups : List UInt16} {start n : Nat}
    (zeros : n ≤ zerosFrom groups start) :
    groups.take start ++ List.replicate n 0 ++ groups.drop (start + n) = groups := by
  have hlength : n ≤ (groups.drop start).length :=
    Nat.le_trans zeros (List.takeWhile_prefix _).length_le
  have hrun : (groups.drop start).take n = List.replicate n 0 := by
    rw [List.eq_replicate_iff, List.length_take, Nat.min_eq_left hlength]
    refine ⟨rfl, fun g hg => ?_⟩
    -- the first `n` groups are among those that are zero
    have htake := List.prefix_iff_eq_take.mp
      (List.takeWhile_prefix (l := groups.drop start) fun g => decide (g = 0))
    have hmem : g ∈ (groups.drop start).takeWhile fun g => decide (g = 0) := by
      rw [htake]
      exact (List.take_subset_take_left _ zeros) hg
    exact of_decide_eq_true (List.mem_takeWhile_imp (p := fun g => decide (g = 0)) hmem)
  rw [← hrun, ← List.drop_drop, List.append_assoc, List.take_append_drop, List.take_append_drop]

/-! ## Addresses of groups -/

theorem groups_ofGroups (hi lo : UInt16) : (Ipv4.ofGroups hi lo).groups = [hi, lo] := by
  have pair : ∀ g : UInt16,
      groupOfBytes (UInt8.ofNat (g.toNat / 256)) (UInt8.ofNat (g.toNat % 256)) = g := by
    intro g
    have hlt := g.toNat_lt
    have hhi : (UInt8.ofNat (g.toNat / 256)).toNat = g.toNat / 256 := by
      rw [UInt8.toNat_ofNat']
      omega
    have hlo : (UInt8.ofNat (g.toNat % 256)).toNat = g.toNat % 256 := by
      rw [UInt8.toNat_ofNat']
      omega
    rw [groupOfBytes, hhi, hlo, Nat.div_add_mod]
    exact UInt16.ofNat_toNat
  rw [Ipv4.groups, Ipv4.ofGroups, pair, pair]

/-- An address that carries a four-byte address has the fixed beginning. -/
theorem groups_of_mapped? {ip : Ipv6} {v4 : Ipv4} (mapped : ip.mapped? = some v4) :
    ip.groups = [0, 0, 0, 0, 0, 0xFFFF] ++ v4.groups := by
  unfold Ipv6.mapped? at mapped
  split at mapped
  · next hi lo hgroups =>
    cases mapped
    rw [hgroups, groups_ofGroups]
    rfl
  · cases mapped

theorem ofGroups?_groups (ip : Ipv6) : Ipv6.ofGroups? ip.groups = some ip :=
  dif_pos ip.length_eq

/-- Fewer than eight groups before a gap, and the others behind it. -/
theorem readIpv6_gap {before after : List UInt16} {text rest : List Char} {ip : Ipv6}
    {endsInIpv4 : Bool} (short : before.length + after.length < 8)
    (head : readGroups 8 true text = ⟨before, false, ':' :: ':' :: rest⟩) {tail : List Char}
    (behind : readGroups (7 - before.length) true rest = ⟨after, endsInIpv4, tail⟩)
    (whole : before ++ List.replicate (8 - before.length - after.length) 0 ++ after = ip.groups) :
    readIpv6 text = some (ip, tail) := by
  have hshort : before.length ≠ 8 := by omega
  simp only [readIpv6, head, hshort, if_false, Bool.false_eq_true, readChar_cons, Option.bind_some,
    Option.bind_eq_bind, behind, whole, ofGroups?_groups]
  rfl

/-- An address of groups is read back from its written form. -/
theorem readIpv6_text (ip : Ipv6) {tail : List Char} (behind : BehindGroups tail) :
    readIpv6 (ip.text ++ tail) = some (ip, tail) := by
  unfold Ipv6.text
  cases hmapped : ip.mapped? with
  | some v4 =>
    have hgroups := groups_of_mapped? hmapped
    have hcolon : BehindGroup (':' :: (v4.text ++ tail)) :=
      behindGroup_cons (by decide) (by decide)
    have hgroup : readGroup ("ffff".toList ++ ':' :: (v4.text ++ tail)) =
        some (0xFFFF, ':' :: (v4.text ++ tail)) := readGroup_numeral (g := 0xFFFF) hcolon
    have hnot : readIpv4 ("ffff".toList ++ ':' :: (v4.text ++ tail)) = none :=
      readIpv4_numeral 0xFFFF hcolon
    have hafter : readGroups 7 true ("ffff".toList ++ ':' :: (v4.text ++ tail)) =
        ⟨0xFFFF :: v4.groups, true, tail⟩ := by
      simp only [readGroups, if_true, Option.bind_some, hnot, hgroup, readChar_cons,
        readIpv4_text v4 behind.stops.ten, Nat.zero_lt_succ, Bool.false_eq_true, if_false]
    have hhead : readGroups 8 true (':' :: ':' :: ("ffff".toList ++ ':' :: (v4.text ++ tail))) =
        ⟨[], false, ':' :: ':' :: ("ffff".toList ++ ':' :: (v4.text ++ tail))⟩ :=
      readGroups_of_behind (behindGroups_gap _) 8 true
    refine readIpv6_gap (by simp [Ipv4.groups]) hhead hafter ?_
    rw [hgroups]
    rfl
  | none =>
    simp only
    generalize hrun : longestZeroRun ip.groups = run
    have hzeros : run.2 ≤ zerosFrom ip.groups run.1 := hrun ▸ longestZeroRun_le ip.groups
    have hwhole := eq_around_zeros hzeros
    have hlength := ip.length_eq
    split
    · next hlong =>
      have hfit : run.1 + run.2 ≤ 8 := by
        have hle : zerosFrom ip.groups run.1 ≤ (ip.groups.drop run.1).length :=
          (List.takeWhile_prefix _).length_le
        rw [List.length_drop, hlength] at hle
        omega
      have hbefore : (ip.groups.take run.1).length = run.1 := by
        rw [List.length_take]
        omega
      have hafter : (ip.groups.drop (run.1 + run.2)).length = 8 - (run.1 + run.2) := by
        rw [List.length_drop, hlength]
      rw [List.append_assoc, List.append_assoc]
      refine readIpv6_gap (by omega)
        (readGroups_groupsText (behindGroups_gap _) (by omega))
        (readGroups_groupsText behind (by omega)) ?_
      have hcount : 8 - (ip.groups.take run.1).length - (ip.groups.drop (run.1 + run.2)).length =
          run.2 := by omega
      rw [hcount]
      exact hwhole
    · have hread : readGroups 8 true (groupsText ip.groups ++ tail) = ⟨ip.groups, false, tail⟩ :=
        readGroups_groupsText behind (Nat.le_of_eq hlength)
      simp only [readIpv6, hread, hlength, if_true, ofGroups?_groups]
      rfl

/-! ## Spelling -/

theorem mem_joinWith {separator c : Char} {texts : List (List Char)}
    (hc : c ∈ joinWith separator texts) : c = separator ∨ ∃ t ∈ texts, c ∈ t := by
  induction texts with
  | nil => cases hc
  | cons t texts ih =>
    cases texts with
    | nil => exact Or.inr ⟨t, List.mem_cons_self, hc⟩
    | cons next texts =>
      rcases List.mem_append.mp hc with hfirst | hrest
      · exact Or.inr ⟨t, List.mem_cons_self, hfirst⟩
      · rcases List.mem_cons.mp hrest with hseparator | hothers
        · exact Or.inl hseparator
        · refine (ih hothers).imp_right ?_
          rintro ⟨u, hu, hcu⟩
          exact ⟨u, List.mem_cons_of_mem t hu, hcu⟩

/-- The character is a digit, or one of the signs in the written form of an address. -/
def Spelled (c : Char) : Prop :=
  isDigitOf 16 c = true ∨ c ∈ ['.', ':', '%', '[', ']']

instance (c : Char) : Decidable (Spelled c) :=
  inferInstanceAs (Decidable (isDigitOf 16 c = true ∨ c ∈ ['.', ':', '%', '[', ']']))

theorem spelled_of_all {signs : List Char}
    (all : (signs.all fun c => decide (Spelled c)) = true) : ∀ c ∈ signs, Spelled c :=
  fun c hc => of_decide_eq_true (List.all_eq_true.mp all c hc)

theorem spelled_decimal (n : Nat) : ∀ c ∈ decimal n, Spelled c := fun c hc =>
  Or.inl (isDigitOf_sixteen (isDigitOf_of_mem_numeral (by decide) (by decide) n c hc))

theorem spelled_ipv4 (ip : Ipv4) : ∀ c ∈ ip.text, Spelled c := by
  intro c hc
  rcases mem_joinWith hc with rfl | ⟨t, ht, hct⟩
  · exact Or.inr (by decide)
  · obtain ⟨b, _, rfl⟩ := List.mem_map.mp ht
    exact spelled_decimal b.toNat c hct

theorem spelled_groups (groups : List UInt16) : ∀ c ∈ groupsText groups, Spelled c := by
  intro c hc
  rcases mem_joinWith hc with rfl | ⟨t, ht, hct⟩
  · exact Or.inr (by decide)
  · obtain ⟨g, _, rfl⟩ := List.mem_map.mp ht
    exact Or.inl (isDigitOf_of_mem_numeral (by decide) (by decide) g.toNat c hct)

theorem spelled_ipv6 (ip : Ipv6) : ∀ c ∈ ip.text, Spelled c := by
  intro c hc
  unfold Ipv6.text at hc
  split at hc
  · next v4 _ =>
    rcases List.mem_append.mp hc with hprefix | hv4
    · exact spelled_of_all (by decide) c hprefix
    · exact spelled_ipv4 v4 c hv4
  · simp only at hc
    split at hc
    · rcases List.mem_append.mp hc with hc | hafter
      · rcases List.mem_append.mp hc with hbefore | hgap
        · exact spelled_groups _ c hbefore
        · exact spelled_of_all (by decide) c hgap
      · exact spelled_groups _ c hafter
    · exact spelled_groups _ c hc

/-- The written form has digits and a few signs only. -/
theorem spelled_chars (a : SocketAddr) : ∀ c ∈ a.chars, Spelled c := by
  intro c hc
  cases a with
  | v4 ip port =>
    rcases List.mem_append.mp hc with hip | hport
    · exact spelled_ipv4 ip c hip
    · rcases List.mem_cons.mp hport with rfl | hport
      · exact Or.inr (by decide)
      · exact spelled_decimal port.toNat c hport
  | v6 ip scope port =>
    simp only [SocketAddr.chars, List.cons_append, List.mem_cons, List.mem_append] at hc
    rcases hc with rfl | ((hip | hscope) | hsigns) | hport
    · exact Or.inr (by decide)
    · exact spelled_ipv6 ip c hip
    · unfold scopeText at hscope
      split at hscope
      · cases hscope
      · rcases List.mem_cons.mp hscope with rfl | hscope
        · exact Or.inr (by decide)
        · exact spelled_decimal scope.toNat c hscope
    · exact spelled_of_all (by decide) c hsigns
    · exact spelled_decimal port.toNat c hport

theorem chars_ne_nil (a : SocketAddr) : a.chars ≠ [] := by
  cases a <;> simp [SocketAddr.chars]

/-! ## Whole addresses -/

/-- Whatever the scope, it is read back, and no group stands in it. -/
theorem readScope_scopeText (scope : UInt32) (rest : List Char) :
    BehindGroups (scopeText scope ++ ']' :: rest) ∧
      (readScope (scopeText scope ++ ']' :: rest)).getD (0, scopeText scope ++ ']' :: rest) =
        (scope, ']' :: rest) := by
  have hbracket : StopsDigits 10 (']' :: rest) := stopsDigits_cons (by decide)
  by_cases hzero : scope = 0
  · subst hzero
    exact ⟨behindGroups_cons (by decide) (by decide) (by decide), rfl⟩
  · rw [scopeText, if_neg hzero, List.cons_append, readScope_decimal hbracket]
    exact ⟨behindGroups_cons (by decide) (by decide) (by decide), rfl⟩

/-- A socket address is read back from its written form. -/
theorem parse?_chars (a : SocketAddr) : SocketAddr.parse? a.chars = some a := by
  cases a with
  | v4 ip port =>
    have hip : readIpv4 (ip.text ++ ':' :: decimal port.toNat) =
        some (ip, ':' :: decimal port.toNat) := readIpv4_text ip (stopsDigits_cons (by decide))
    have hport : readPort (':' :: decimal port.toNat) = some (port, []) := by
      simpa using readPort_decimal (stopsDigits_nil 10)
    simp only [SocketAddr.parse?, SocketAddr.chars, readSocketV4, hip, hport, Option.bind_eq_bind,
      Option.bind_some]
    rfl
  | v6 ip scope port =>
    have hport : readPort (':' :: decimal port.toNat) = some (port, []) := by
      simpa using readPort_decimal (stopsDigits_nil 10)
    have htext : (SocketAddr.v6 ip scope port).chars =
        '[' :: (ip.text ++ (scopeText scope ++ ']' :: ':' :: decimal port.toNat)) := by
      simp [SocketAddr.chars]
    obtain ⟨hbehind, hscope⟩ := readScope_scopeText scope (':' :: decimal port.toNat)
    have hip := readIpv6_text ip hbehind
    have hnot :
        readIpv4 ('[' :: (ip.text ++ (scopeText scope ++ ']' :: ':' :: decimal port.toNat))) = none := readIpv4_of_stops (stopsDigits_cons (by decide))
    rw [htext]
    simp only [SocketAddr.parse?, readSocketV4, readSocketV6, hnot, readChar_cons, hip, hscope,
      hport, Option.bind_eq_bind, Option.bind_some, Option.bind_none]
    rfl

end RemotePad
