import RemotePad.Proofs.Net.SocketAddr
import RemotePad.Proofs.Toml.Integers
import RemotePad.Proofs.Toml.Lines
import RemotePad.Settings.Toml

/-!
# Settings that are read back

Written settings are five lines with a bare key and a plain value each, so they are read as what
was written.

* `Settings.lines` are these lines, and `Settings.readable_lines` says that they can be read.
* `Settings.ofToml?_of_toToml?`: reading the written form gives the settings back.
* `Settings.toToml?_eq_some_iff`: which settings have a written form.
* `Settings.sayable_of_ofToml?`: settings that were read have one.
-/

namespace RemotePad

open Toml

namespace Settings

/-! ## Lines -/

/-- A line whose value is an address. -/
def addrLine (key : String) (a : SocketAddr) : Assignment :=
  ⟨key.toList, tomlQuoted a.chars, .string a.chars⟩

/-- A line whose value is a number. -/
def natLine (key : String) (n : Nat) : Assignment :=
  ⟨key.toList, decimal n, .integer n⟩

/-- The lines of written settings. -/
def lines (s : Settings) : List Assignment :=
  [addrLine localAddrKey s.localAddr, addrLine serverAddrKey s.serverAddr,
    natLine recvTimeoutMsKey s.recvTimeoutMs.toNat, natLine queueCapacityKey s.queueCapacity.toNat,
    natLine versionKey s.version.toNat]

theorem tomlLines_eq (s : Settings) : s.tomlLines = s.lines.flatMap Assignment.line := by
  simp only [tomlLines, tomlLine, lines, addrLine, natLine, List.flatMap_cons, List.flatMap_nil,
    Assignment.line, List.append_nil, List.append_assoc]

/-- Everything in an address may stand between quotes. -/
theorem quotable_of_spelled {c : Char} (spelled : Spelled c) : Quotable c := by
  rcases spelled with digit | hsign
  · obtain ⟨hlo, hhi⟩ := isDigitOf_between digit
    refine ⟨?_, ne_of_isDigitOf digit (by decide), ne_of_isDigitOf digit (by decide)⟩
    simp only [isPrintable, Bool.or_eq_true, Bool.and_eq_true, decide_eq_true_eq, bne_iff_ne]
    omega
  · have hprintable : ['.', ':', '%', '[', ']'].all isPrintable = true := by decide
    refine ⟨List.all_eq_true.mp hprintable c hsign, ?_, ?_⟩
    · rintro rfl
      exact absurd hsign (by decide)
    · rintro rfl
      exact absurd hsign (by decide)

theorem readable_addrLine {key : String} (bare : key.toList.all isBareChar = true)
    (nonempty : key.toList ≠ []) (a : SocketAddr) : (addrLine key a).Readable where
  bare := List.all_eq_true.mp bare
  nonempty := nonempty
  noReturn := fun hmem => by
    have hmem' : '\r' ∈ '"' :: a.chars ++ ['"'] := hmem
    simp only [List.cons_append, List.mem_cons, List.mem_append, List.not_mem_nil, or_false]
      at hmem'
    rcases hmem' with hquote | hchars | hquote
    · exact absurd hquote (by decide)
    · exact absurd (spelled_chars a _ hchars) (by decide)
    · exact absurd hquote (by decide)
  starts := fun rest => rfl
  reads := fun fuel depth rest => by
    have htext : tomlQuoted a.chars ++ '\n' :: rest = '"' :: a.chars ++ '"' :: '\n' :: rest := by
      simp only [tomlQuoted, List.cons_append, List.append_assoc, List.nil_append]
    have hread := readValue_quoted (fun c hc => quotable_of_spelled (spelled_chars a c hc))
      (chars_ne_nil a) fuel depth ('\n' :: rest)
    rw [← htext] at hread
    exact hread

theorem readable_natLine {key : String} (bare : key.toList.all isBareChar = true)
    (nonempty : key.toList ≠ []) {n : Nat} (fits : n ≤ tomlMax) : (natLine key n).Readable where
  bare := List.all_eq_true.mp bare
  nonempty := nonempty
  noReturn := fun hmem =>
    ne_of_isDigitOf (isDigitOf_of_mem_numeral (by decide) (by decide) n _ hmem)
      (by decide : isDigitOf 10 '\r' = false) rfl
  starts := fun rest => by
    obtain ⟨d, ds, hcons, digit, _⟩ := decimal_eq_cons n
    have hspace : d ≠ ' ' := ne_of_isDigitOf digit (by decide)
    have htab : d ≠ '\t' := ne_of_isDigitOf digit (by decide)
    have hwritten : (natLine key n).written = d :: ds := hcons
    rw [hwritten]
    exact skipBlanks_cons _ (by simp [isBlank, hspace, htab])
  reads := readValue_decimal fits

/-- Settings whose numbers can be said. -/
def Sayable (s : Settings) : Prop :=
  s.recvTimeoutMs.toNat ≤ tomlMax ∧ s.queueCapacity.toNat ≤ tomlMax

theorem readable_lines {s : Settings} (sayable : s.Sayable) : ∀ a ∈ s.lines, a.Readable := by
  have hversion : s.version.toNat ≤ tomlMax :=
    Nat.le_trans (Nat.le_of_lt s.version.toNat_lt) (by decide)
  simp only [lines, List.forall_mem_cons]
  exact ⟨readable_addrLine (by decide) (by decide) s.localAddr,
    readable_addrLine (by decide) (by decide) s.serverAddr,
    readable_natLine (by decide) (by decide) sayable.1,
    readable_natLine (by decide) (by decide) sayable.2,
    readable_natLine (by decide) (by decide) hversion, nofun⟩

/-! ## Reading back -/

theorem natOfToml?_integer {bound n : Nat} (h : n ≤ bound) :
    natOfToml? bound (.integer n) = some n :=
  if_pos h

theorem word64OfToml?_integer (w : UInt64) : word64OfToml? (.integer w.toNat) = some w := by
  have hread := natOfToml?_integer (Nat.le_of_lt_succ w.toNat_lt)
  rw [word64OfToml?, hread, Option.map_some, UInt64.ofNat_toNat]

theorem word32OfToml?_integer (w : UInt32) : word32OfToml? (.integer w.toNat) = some w := by
  have hread := natOfToml?_integer (Nat.le_of_lt_succ w.toNat_lt)
  rw [word32OfToml?, hread, Option.map_some, UInt32.ofNat_toNat]

/-- A field that is there is read from its value. -/
theorem tomlField_of_get? {α : Type} {entries : Entries} {key : String} {v : Value}
    (found : entries.get? key.toList = some v) (read : Value → Option α) (missing : α) :
    tomlField entries key read missing = read v := by
  rw [tomlField, found]

/-- The fields are found under their keys. -/
theorem ofTomlEntries?_lines (s : Settings) :
    ofTomlEntries? (s.lines.map Assignment.entry) = some s := by
  let entries : Entries := s.lines.map Assignment.entry
  have hlocal : Entries.get? entries localAddrKey.toList =
      some (.string s.localAddr.chars) := rfl
  have hserver : Entries.get? entries serverAddrKey.toList =
      some (.string s.serverAddr.chars) := rfl
  have htimeout : Entries.get? entries recvTimeoutMsKey.toList =
      some (.integer s.recvTimeoutMs.toNat) := rfl
  have hcapacity : Entries.get? entries queueCapacityKey.toList =
      some (.integer s.queueCapacity.toNat) := rfl
  have hversion : Entries.get? entries versionKey.toList = some (.integer s.version.toNat) := rfl
  show ofTomlEntries? entries = some s
  simp only [ofTomlEntries?, tomlField_of_get? hlocal, tomlField_of_get? hserver,
    tomlField_of_get? htimeout, tomlField_of_get? hcapacity, tomlField_of_get? hversion,
    addrOfToml?, parse?_chars, word64OfToml?_integer, word32OfToml?_integer, Option.bind_eq_bind,
    Option.bind_some, Option.pure_def]

theorem toToml?_eq_some_iff {s : Settings} {text : List Char} :
    s.toToml? = some text ↔ s.Sayable ∧ text = s.tomlLines := by
  unfold toToml? Sayable
  split
  · next h => exact ⟨fun heq => ⟨h, (Option.some.inj heq).symm⟩, fun heq => by rw [heq.2]⟩
  · next h => exact ⟨nofun, fun heq => absurd heq.1 h⟩

/-- Reading the written form gives the settings back. -/
theorem ofToml?_of_toToml? {s : Settings} {text : List Char} (written : s.toToml? = some text) :
    ofToml? text = some s := by
  obtain ⟨sayable, rfl⟩ := toToml?_eq_some_iff.mp written
  have distinct : (s.lines.map Assignment.key).Nodup :=
    (by decide : [localAddrKey.toList, serverAddrKey.toList, recvTimeoutMsKey.toList,
      queueCapacityKey.toList, versionKey.toList].Nodup)
  rw [ofToml?, tomlLines_eq, parse?_lines (readable_lines sayable) distinct, Option.bind_some,
    ofTomlEntries?_lines]

/-! ## Writing what was read -/

/-- A number that was read from a document can be said, and so can the default. -/
theorem le_tomlMax_of_tomlField {entries : Entries} (fit : entries.Fit) {key : String}
    {missing w : UInt64} (small : missing.toNat ≤ tomlMax)
    (read : tomlField entries key word64OfToml? missing = some w) : w.toNat ≤ tomlMax := by
  unfold tomlField at read
  split at read
  · next v found =>
    obtain ⟨n, hn, rfl⟩ := Option.map_eq_some_iff.mp read
    unfold natOfToml? at hn
    split at hn
    · next m =>
      obtain ⟨hle, hm⟩ := Option.ite_none_right_eq_some.mp hn
      cases hm
      obtain ⟨e, he, hvalue⟩ := Option.map_eq_some_iff.mp found
      have hfits := fit e (List.mem_of_find?_eq_some he) _ hvalue
      simp only [fits64, Bool.and_eq_true, decide_eq_true_eq] at hfits
      rw [UInt64.toNat_ofNat_of_lt' (Nat.lt_succ_of_le hle)]
      exact Int.ofNat_le.mp hfits.2
    · cases hn
  · cases read
    exact small

/-- Settings that were read can be written. -/
theorem sayable_of_ofToml? {s : Settings} {text : List Char} (read : ofToml? text = some s) :
    s.Sayable := by
  obtain ⟨entries, hparse, hread⟩ := Option.bind_eq_some_iff.mp read
  have fit := fit_parse? hparse
  simp only [ofTomlEntries?, Option.bind_eq_bind, Option.bind_eq_some_iff, Option.pure_def,
    Option.some.injEq] at hread
  obtain ⟨_, _, _, _, timeout, htimeout, capacity, hcapacity, _, _, rfl⟩ := hread
  exact ⟨le_tomlMax_of_tomlField fit (by decide) htimeout,
    le_tomlMax_of_tomlField fit (by decide) hcapacity⟩

end Settings

end RemotePad
