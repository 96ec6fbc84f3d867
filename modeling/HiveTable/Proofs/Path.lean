import Mathlib.Data.List.TakeWhile
import HiveTable.Path
import HiveTable.Proofs.Text.Percent

/-!
# Names on the way of a path

A path that begins with another path goes the way of that one first: the names between its slashes
are those of the first path and then those of the rest, if the first path ends where a name ends
(`parts_append`). So begins a path with that of its parent (`parent_begins`), and with that of the
directory that it was joined to (`join_begins`). The bytes of a path are those of its parts
(`bytes?_append_eq_some`), and a character of ASCII is in a path exactly if its byte is among them
(`mem_bytes?`).
-/

namespace HiveTable

namespace Text

theorem ofString_append (s t : String) : ofString (s ++ t) = ofString s ++ ofString t := by
  simp [ofString, ofChars]

theorem ofString_injective : Function.Injective ofString := by
  intro s t h
  rw [← Option.some_inj, ← string?_ofString s, h, string?_ofString]

/-- The parts of a text that is a string are strings. -/
theorem exists_of_append_eq_ofString {a b : Text} {s : String} (h : a ++ b = ofString s) :
    ∃ s₁ s₂ : String, a = ofString s₁ ∧ b = ofString s₂ ∧ s = s₁ ++ s₂ := by
  obtain ⟨cs₁, cs₂, hcs, rfl, rfl⟩ := List.map_eq_append_iff.1 h.symm
  refine ⟨.ofList cs₁, .ofList cs₂, by simp [ofString, ofChars], by simp [ofString, ofChars], ?_⟩
  rw [← String.toList_inj, String.toList_append, String.toList_ofList, String.toList_ofList, hcs]

end Text

namespace Path

/-! ## Names -/

namespace Bytes

theorem parts_append_slash (a b : Bytes) : parts (a ++ slash :: b) = parts a ++ parts b := by
  have hsplit : (a ++ slash :: b).splitOn slash = a.splitOn slash ++ b.splitOn slash :=
    List.splitOnP_append_cons _ _ (beq_self_eq_true slash)
  simp [parts, hsplit]

theorem parts_slash (b : Bytes) : parts (slash :: b) = parts b := parts_append_slash [] b

/-- No name lies in both parts of a path. -/
def Meets (a rest : Bytes) : Prop := a = [] ∨ a.endsInSlash = true ∨ rest.isRooted = true

/-- The names of a path are those of its beginning and those of the rest. -/
theorem parts_append {a rest : Bytes} (h : Meets a rest) :
    parts (a ++ rest) = parts a ++ parts rest := by
  rcases h with rfl | h | h
  · rfl
  · obtain ⟨before, rfl⟩ := List.getLast?_eq_some_iff.1 (beq_iff_eq.1 h)
    rw [List.append_assoc, List.singleton_append, parts_append_slash, parts_append_slash before []]
    exact congrArg (· ++ parts rest) (List.append_nil _).symm
  · obtain ⟨after, rfl⟩ := List.head?_eq_some_iff.1 (beq_iff_eq.1 h)
    rw [parts_append_slash, parts_slash]

theorem not_mem_splitOn {α : Type} [BEq α] [LawfulBEq α] {sep : α} {l part : List α}
    (h : part ∈ l.splitOn sep) : sep ∉ part := by
  induction l generalizing part with
  | nil =>
    obtain rfl := List.mem_singleton.1 h
    simp
  | cons x rest ih =>
    rw [List.splitOn, List.splitOnP_cons_eq_if_modifyHead] at h
    split at h
    · rcases List.mem_cons.1 h with rfl | h
      · simp
      · exact ih h
    · rename_i hx
      rcases hsplit : rest.splitOnP (· == sep) with _ | ⟨first, others⟩
      · rw [hsplit] at h
        cases h
      · rw [hsplit, List.modifyHead_cons, List.mem_cons] at h
        rcases h with rfl | h
        · have hfirst : sep ∉ first := ih (by rw [List.splitOn, hsplit]; exact List.mem_cons_self)
          have hne : sep ≠ x := fun h => hx (by simp [h])
          simp [hfirst, hne]
        · exact ih (by rw [List.splitOn, hsplit]; exact List.mem_cons_of_mem _ h)

/-- No name has a slash in it. -/
theorem not_mem_of_mem_parts {path name : Bytes} (h : name ∈ parts path) : slash ∉ name :=
  not_mem_splitOn (List.mem_filter.1 h).1

/-- A name without slashes is the only name of its path. -/
theorem parts_of_not_mem {name : Bytes} (hslash : slash ∉ name) (hname : name ≠ []) :
    parts name = [name] := by
  have hsplit : name.splitOn slash = [name] := by
    have hsegments : ∀ l ∈ [name], slash ∉ l := by simpa using hslash
    simpa [List.intercalate_singleton] using List.splitOn_intercalate slash hsegments (by simp)
  simp [parts, hsplit, hname]

theorem eq_of_splitOn_nil {α : Type} [BEq α] [LawfulBEq α] {sep : α} {l : List α}
    (h : ∀ part ∈ l.splitOn sep, part = []) : ∀ x ∈ l, x = sep := by
  induction l with
  | nil => simp
  | cons x rest ih =>
    rw [List.splitOn, List.splitOnP_cons_eq_if_modifyHead] at h
    split at h
    · rename_i hx
      have hrest := ih fun part hpart => h part (List.mem_cons_of_mem _ hpart)
      exact List.forall_mem_cons.2 ⟨by simpa using hx, hrest⟩
    · -- The first part has the letter in it.
      rcases hsplit : rest.splitOnP (· == sep) with _ | ⟨first, others⟩
      · exact absurd hsplit (List.splitOnP_ne_nil _ _)
      · rw [hsplit, List.modifyHead_cons] at h
        cases h _ List.mem_cons_self

/-- A path that has more in it than slashes has a name. -/
theorem parts_ne_nil {path : Bytes} {b : UInt8} (h : b ∈ path) (hb : b ≠ slash) :
    parts path ≠ [] := by
  intro hnone
  have hempty : ∀ part ∈ path.splitOn slash, part = [] := by simpa [parts] using hnone
  exact hb (eq_of_splitOn_nil hempty b h)

end Bytes

/-! ## Bytes of a path -/

@[simp] theorem bytes?_ofString (s : String) :
    bytes? (Text.ofString s) = some (Bytes.ofString s) := by
  have hchars : ∀ cs : List Char, bytes? (Text.ofChars cs) = some (Text.Utf8.encode cs) := by
    intro cs
    induction cs with
    | nil => rfl
    | cons c cs ih =>
      show (do return (← letterBytes? (.char c)) ++ (← bytes? (Text.ofChars cs))) = _
      rw [ih]
      rfl
  exact hchars s.toList

theorem bytes?_cons_eq_some {l : Letter} {rest : Text} {p : Bytes} :
    bytes? (l :: rest) = some p ↔
      ∃ first others, letterBytes? l = some first ∧ bytes? rest = some others ∧
        p = first ++ others := by
  simp only [bytes?, Option.bind_eq_bind, Option.bind_eq_some_iff, Option.pure_def,
    Option.some.injEq]
  constructor
  · rintro ⟨first, hfirst, others, hothers, rfl⟩
    exact ⟨first, others, hfirst, hothers, rfl⟩
  · rintro ⟨first, others, hfirst, hothers, rfl⟩
    exact ⟨first, hfirst, others, hothers, rfl⟩

/-- The bytes of a path are those of its beginning and those of the rest. -/
theorem bytes?_append_eq_some {a rest : Text} {p : Bytes} :
    bytes? (a ++ rest) = some p ↔
      ∃ first others, bytes? a = some first ∧ bytes? rest = some others ∧ p = first ++ others := by
  induction a generalizing p with
  | nil => simp [bytes?, eq_comm]
  | cons l a ih =>
    rw [List.cons_append, bytes?_cons_eq_some]
    constructor
    · rintro ⟨letter, others, hletter, hothers, rfl⟩
      obtain ⟨first, others, hfirst, hrest, rfl⟩ := ih.1 hothers
      exact ⟨letter ++ first, others, bytes?_cons_eq_some.2 ⟨_, _, hletter, hfirst, rfl⟩, hrest,
        (List.append_assoc ..).symm⟩
    · rintro ⟨_, others, hbefore, hrest, rfl⟩
      obtain ⟨letter, first, hletter, hfirst, rfl⟩ := bytes?_cons_eq_some.1 hbefore
      exact ⟨letter, first ++ others, hletter, ih.2 ⟨_, _, hfirst, hrest, rfl⟩,
        List.append_assoc ..⟩

theorem letterBytes?_ne_nil {l : Letter} {p : Bytes} (h : letterBytes? l = some p) : p ≠ [] := by
  cases l with
  | char c =>
    obtain rfl := Option.some.inj h
    unfold Text.Utf8.encodeChar
    dsimp only
    split_ifs <;> simp
  | half n =>
    unfold letterBytes? at h
    dsimp only at h
    split at h
    · obtain rfl := Option.some.inj h
      simp
    · cases h

theorem bytes?_eq_some_nil {t : Text} : bytes? t = some [] ↔ t = [] := by
  cases t with
  | nil => exact iff_of_true rfl rfl
  | cons l rest =>
    refine iff_of_false (fun h => ?_) (List.cons_ne_nil l rest)
    obtain ⟨first, others, hfirst, -, hnil⟩ := bytes?_cons_eq_some.1 h
    exact letterBytes?_ne_nil hfirst (List.append_eq_nil_iff.1 hnil.symm).1

/-- Bytes past ASCII are never those of a character of ASCII. -/
theorem mem_letterBytes? {c : Char} (hc : c.toNat < 0x80) {l : Letter} {p : Bytes}
    (h : letterBytes? l = some p) : UInt8.ofNat c.toNat ∈ p ↔ l = .char c := by
  have hbyte : ∀ {n : Nat}, n < 0x100 → (UInt8.ofNat c.toNat = UInt8.ofNat n ↔ c.toNat = n) := by
    intro n hn
    rw [← UInt8.toNat_inj, Text.Utf8.toNat_ofNat (by omega), Text.Utf8.toNat_ofNat hn]
  cases l with
  | char d =>
    have hd := Text.Utf8.toNat_lt d
    have hcd : Letter.char d = .char c ↔ c.toNat = d.toNat := by
      rw [Letter.char.injEq, ← Char.toNat_inj, eq_comm]
    obtain rfl := Option.some.inj h
    rw [hcd]
    unfold Text.Utf8.encodeChar
    dsimp only
    split_ifs
    · simp (disch := omega) only [List.mem_singleton, hbyte]
    all_goals
      simp (disch := omega) only [List.mem_cons, List.not_mem_nil, or_false, hbyte]
      omega
  | half n =>
    unfold letterBytes? at h
    dsimp only at h
    split at h
    · obtain rfl := Option.some.inj h
      rw [List.mem_singleton, hbyte (by omega)]
      exact iff_of_false (by omega) nofun
    · cases h

theorem mem_bytes? {c : Char} (hc : c.toNat < 0x80) {t : Text} {p : Bytes}
    (h : bytes? t = some p) : UInt8.ofNat c.toNat ∈ p ↔ .char c ∈ t := by
  induction t generalizing p with
  | nil =>
    obtain rfl := Option.some.inj h
    simp
  | cons l rest ih =>
    obtain ⟨first, others, hfirst, hothers, rfl⟩ := bytes?_cons_eq_some.1 h
    rw [List.mem_append, List.mem_cons, mem_letterBytes? hc hfirst, ih hothers, eq_comm]

theorem slash_mem_bytes? {t : Text} {p : Bytes} (h : bytes? t = some p) :
    slash ∈ t ↔ Bytes.slash ∈ p :=
  (mem_bytes? (c := '/') (by decide) h).symm

/-- No name lies in both parts of a path. -/
def Meets (a rest : Text) : Prop := a = [] ∨ endsInSlash a = true ∨ isRooted rest = true

theorem Meets.bytes {a rest : Text} {first others : Bytes} (h : Meets a rest)
    (hfirst : bytes? a = some first) (hothers : bytes? rest = some others) :
    Bytes.Meets first others := by
  rcases h with rfl | h | h
  · exact .inl (Option.some.inj hfirst).symm
  · obtain ⟨before, rfl⟩ := List.getLast?_eq_some_iff.1 (beq_iff_eq.1 h)
    obtain ⟨p, last, -, hlast, rfl⟩ := bytes?_append_eq_some.1 hfirst
    obtain rfl := Option.some.inj hlast
    exact .inr (.inl (beq_iff_eq.2 List.getLast?_concat))
  · obtain ⟨after, rfl⟩ := List.head?_eq_some_iff.1 (beq_iff_eq.1 h)
    obtain ⟨letter, p, hletter, -, rfl⟩ := bytes?_cons_eq_some.1 hothers
    obtain rfl := Option.some.inj hletter
    exact .inr (.inr rfl)

/-! ## Parents -/

theorem isRooted_append {a : Text} (rest : Text) (h : isRooted a = true) :
    isRooted (a ++ rest) = true := by
  cases a with
  | nil => cases h
  | cons l a => exact h

theorem splitLast_begins (path : Text) :
    ∃ rest, path = (splitLast path).1 ++ rest ∧ Meets (splitLast path).1 rest := by
  obtain ⟨last, before, hpath, hlast, hbefore⟩ : ∃ last before : Text,
      path.reverse = last ++ before ∧ path.reverse.takeWhile (· != slash) = last ∧
        ∀ l, before.head? = some l → l = slash := by
    refine ⟨_, path.reverse.dropWhile (· != slash), List.takeWhile_append_dropWhile.symm, rfl, ?_⟩
    intro l hl
    have hstop := List.head?_dropWhile_not (· != slash) path.reverse
    rw [hl] at hstop
    simpa using hstop
  have hreversed : path = before.reverse ++ last.reverse := by
    rw [← List.reverse_append, ← hpath, List.reverse_reverse]
  have hdrop : path.reverse.drop last.reverse.length = before := by
    rw [hpath, List.length_reverse, List.drop_left]
  unfold splitLast
  simp only [hlast, hdrop]
  by_cases hall : before.all (· == slash) = true
  · rw [if_pos hall]
    refine ⟨last.reverse, hreversed, ?_⟩
    cases before with
    | nil => exact .inl rfl
    | cons l before =>
      refine .inr (.inl ?_)
      obtain rfl := hbefore l rfl
      simp [endsInSlash]
  · rw [if_neg hall]
    refine ⟨(before.takeWhile (· == slash)).reverse ++ last.reverse, ?_, .inr (.inr ?_)⟩
    · rw [← List.append_assoc, ← List.reverse_append, List.takeWhile_append_dropWhile, hreversed]
    · refine isRooted_append _ ?_
      cases before with
      | nil => exact absurd rfl hall
      | cons l before =>
        obtain rfl := hbefore l rfl
        rw [List.takeWhile_cons_of_pos (by simp)]
        rcases hslashes : (before.takeWhile (· == slash)).reverse with _ | ⟨l, slashes⟩
        · simp [hslashes, isRooted]
        · have hl : l ∈ before.takeWhile (· == slash) := by
            rw [← List.mem_reverse, hslashes]
            exact List.mem_cons_self
          simpa [hslashes, isRooted] using List.mem_takeWhile_imp hl

/-- A path begins with its parent. -/
theorem parent_begins (path : Text) :
    ∃ rest, path = (parent path).1 ++ rest ∧ Meets (parent path).1 rest := by
  obtain ⟨rest, hpath, hmeets⟩ := splitLast_begins path
  unfold parent
  dsimp only
  split
  · obtain ⟨rest', hhead, hmeets'⟩ := splitLast_begins (splitLast path).1
    refine ⟨rest' ++ rest, ?_, ?_⟩
    · rw [← List.append_assoc, ← hhead, ← hpath]
    · rcases hmeets' with h | h | h
      · exact .inl h
      · exact .inr (.inl h)
      · exact .inr (.inr (isRooted_append rest h))
  · exact ⟨rest, hpath, hmeets⟩

/-- A path that is joined to a directory begins with it, unless it starts from the root. -/
theorem join_begins (a : Text) {b : Text} (h : isRooted b = false) :
    ∃ rest, join a b = a ++ rest ∧ Meets a rest ∧ (rest = b ∨ rest = slash :: b) := by
  unfold join
  rw [h]
  simp only [Bool.false_eq_true, if_false]
  split
  · rename_i hends
    rw [Bool.or_eq_true, List.isEmpty_iff] at hends
    exact ⟨b, rfl, hends.imp_right .inl, .inl rfl⟩
  · exact ⟨slash :: b, rfl, .inr (.inr rfl), .inr rfl⟩

end Path

end HiveTable
