import RemoteConsole.Net.Address
import RemoteConsole.Proofs.Json.Numeral

/-!
# Addresses read back

A number is read back from its digits if what comes behind them is no digit, and so are a byte
and a group. Groups with colons between them are read back up to a text that does not go on with
another group (`groups_textOfGroups`); two colons in a row are such a text, so the groups on both
sides of them are found, and the zeros between them follow from their number (`v6?_compressed`).
The main statements are `SocketAddress.ofText?_text_v4` and `SocketAddress.ofText?_text_v6`: the
text of a socket address is read as that address. Without brackets an address of groups is never
read (`SocketAddress.ofText?_unbracketed`).
-/

namespace RemoteConsole

namespace IpAddress

section Digits

variable {base n : Nat} {c : Char} {rest : List Char}

theorem digit?_of_digit?_sixteen {d : Nat} (h : digit? 16 c = some d) (hd : d < base) :
    digit? base c = some d := by
  simp only [digit?, Option.ite_none_right_eq_some, Option.some.injEq] at h ⊢
  exact ⟨h.2 ▸ hd, h.2⟩

theorem digit?_eq_none_of_sixteen (hbase : base ≤ 16) (h : digit? 16 c = none) :
    digit? base c = none := by
  simp only [digit?, ite_eq_right_iff, reduceCtorEq, imp_false, Nat.not_lt] at h ⊢
  exact Nat.le_trans hbase h

theorem digit?_digitChar {d : Nat} (hbase : base ≤ 16) (hd : d < base) :
    digit? base d.digitChar = some d := by
  have hsixteen : ∀ d < 16, digit? 16 (Nat.digitChar d) = some d := by decide
  exact digit?_of_digit?_sixteen (hsixteen d (by omega)) hd

theorem isSome_digit?_of_mem_toDigits (hone : 1 < base) (hbase : base ≤ 16)
    (h : c ∈ Nat.toDigits base n) : (digit? base c).isSome = true := by
  have hdigit {d : Nat} (hd : d < base) (h : c ∈ Nat.toDigits base d) :
      (digit? base c).isSome = true := by
    rw [Nat.toDigits_of_lt_base hd, List.mem_singleton] at h
    rw [h, digit?_digitChar hbase hd]
    rfl
  induction n using Nat.base_induction base hone with
  | single d hd => exact hdigit hd h
  | digit d m hd hm ih =>
      rw [← Nat.toDigits_append_toDigits hone hm hd, List.mem_append] at h
      exact h.elim ih (hdigit hd)

/-- The value of digits is the number they were written for. -/
theorem foldl_toDigits (hone : 1 < base) (hbase : base ≤ 16) (n : Nat) :
    (Nat.toDigits base n).foldl (fun n c => n * base + (digit? base c).getD 0) 0 = n := by
  induction n using Nat.base_induction base hone with
  | single d hd => simp [Nat.toDigits_of_lt_base hd, digit?_digitChar hbase hd]
  | digit d m hd hm ih =>
      rw [← Nat.toDigits_append_toDigits hone hm hd, List.foldl_append, ih,
        Nat.toDigits_of_lt_base hd]
      simp [digit?_digitChar hbase hd, Nat.mul_comm]

/-- A text that does not go on with a number in front of it. -/
def EndsNumber (base : Nat) (rest : List Char) : Prop := ∀ c ∈ rest.head?, digit? base c = none

theorem endsNumber_nil (base : Nat) : EndsNumber base [] := nofun

theorem endsNumber_cons (s : List Char) (h : digit? base c = none) : EndsNumber base (c :: s) := by
  rintro d ⟨⟩
  exact h

theorem EndsNumber.takeWhile_eq (h : EndsNumber base rest) :
    rest.takeWhile (fun c => (digit? base c).isSome) = [] := by
  cases rest with
  | nil => rfl
  | cons c r => simp [h c rfl]

theorem EndsNumber.dropWhile_eq (h : EndsNumber base rest) :
    rest.dropWhile (fun c => (digit? base c).isSome) = rest := by
  cases rest with
  | nil => rfl
  | cons c r => simp [h c rfl]

theorem number?_toDigits_append (hone : 1 < base) (hbase : base ≤ 16) (n : Nat)
    (hrest : EndsNumber base rest) :
    number? base (Nat.toDigits base n ++ rest) = some (Nat.toDigits base n, n, rest) := by
  have hdigits : ∀ c ∈ Nat.toDigits base n, (digit? base c).isSome = true :=
    fun c hc => isSome_digit?_of_mem_toDigits hone hbase hc
  simp only [number?, List.takeWhile_append_of_pos hdigits, hrest.takeWhile_eq, List.append_nil,
    List.dropWhile_append_of_pos hdigits, hrest.dropWhile_eq, foldl_toDigits hone hbase]
  rw [if_neg (by simp [Nat.toDigits_ne_nil])]

end Digits

section Bytes

variable {s rest : List Char}

theorem byte?_append (b : UInt8) (hrest : EndsNumber 10 rest) :
    byte? (decimal b.toNat ++ rest) = some (b, rest) := by
  have hlt : b.toNat < 256 := b.toNat_lt
  have hlength : (Nat.toDigits 10 b.toNat).length ≤ 3 :=
    (Nat.length_toDigits_le_iff (by decide) (by decide)).2 (by omega)
  have hzero (h : (Nat.toDigits 10 b.toNat).head? = some '0') :
      (Nat.toDigits 10 b.toNat).length ≤ 1 := by
    rw [Json.Numeral.toDigits_of_head? h]
    exact Nat.le_refl 1
  rw [byte?, decimal, number?_toDigits_append (by decide) (by decide) _ hrest]
  simp only [Option.bind_eq_bind, Option.bind_some]
  rw [if_pos (by simpa [hlength, hlt, Decidable.or_iff_not_imp_left] using hzero), UInt8.ofNat_toNat]

/-- Between two bytes there is a point, which is no digit. -/
theorem bytes?_append (a b c d : UInt8) (hrest : EndsNumber 10 rest) :
    bytes? (textOfBytes a.toNat b.toNat c.toNat d.toNat ++ rest) = some ((a, b, c, d), rest) := by
  have hpoint (s : List Char) : EndsNumber 10 ('.' :: s) := endsNumber_cons s (by decide)
  simp [bytes?, textOfBytes, byte?_append _ (hpoint _), byte?_append d hrest, skip?]

theorem bytes?_eq_none (h : ∀ r, s.dropWhile (fun c => (digit? 10 c).isSome) ≠ '.' :: r) :
    bytes? s = none := by
  have hbyte : ∀ p, byte? s = some p → skip? '.' p.2 = none := by
    intro p hp
    simp only [byte?, number?, Option.bind_eq_bind, Option.bind_eq_some_iff,
      Option.ite_none_left_eq_some, Option.ite_none_right_eq_some] at hp
    obtain ⟨_, ⟨_, heq⟩, _, heq'⟩ := hp
    obtain rfl := Option.some.inj heq
    obtain rfl := Option.some.inj heq'
    simp only
    cases hs : s.dropWhile (fun c => (digit? 10 c).isSome) with
    | nil => rfl
    | cons c r => exact if_neg fun hc => h r (by rw [hs, hc])
  rw [bytes?]
  cases hp : byte? s with
  | none => rfl
  | some p => simp [hbyte p hp]

end Bytes

section Groups

variable {gs : List UInt16} {rest : List Char}

/-- A group in hexadecimal. -/
def groupText (g : UInt16) : List Char := Nat.toDigits 16 g.toNat

theorem textOfGroups_cons (g : UInt16) (gs : List UInt16) :
    textOfGroups (g :: gs) = groupText g ++ gs.flatMap fun g => ':' :: groupText g := by
  induction gs generalizing g with
  | nil => simp [textOfGroups, groupText]
  | cons h gs ih =>
      have hcons : textOfGroups (g :: h :: gs) = groupText g ++ ':' :: textOfGroups (h :: gs) := by
        simp [textOfGroups, groupText, List.intercalate]
      rw [hcons, ih, List.flatMap_cons, List.cons_append]

/-- A text that does not go on with a group, or with bytes, in front of it. -/
def EndsGroup (rest : List Char) : Prop := ∀ c ∈ rest.head?, digit? 16 c = none ∧ c ≠ '.'

/-- A text that does not go on with more groups in front of it: there is no colon, or there are
two. -/
structure EndsGroups (rest : List Char) : Prop where
  endsGroup : EndsGroup rest
  colons : ∀ r, rest = ':' :: r → r.head? = some ':'

theorem endsGroup_colon (s : List Char) : EndsGroup (':' :: s) := by
  rintro c ⟨⟩
  decide

theorem endsGroups_cons {c : Char} (s : List Char) (hdigit : digit? 16 c = none) (hpoint : c ≠ '.')
    (hcolon : c ≠ ':') : EndsGroups (c :: s) := by
  constructor
  · rintro d ⟨⟩
    exact ⟨hdigit, hpoint⟩
  · rintro r ⟨⟩
    exact absurd rfl hcolon

theorem endsGroups_colons (s : List Char) : EndsGroups (':' :: ':' :: s) := by
  refine ⟨endsGroup_colon _, ?_⟩
  rintro r ⟨⟩
  rfl

theorem endsGroup_flatMap_append (gs : List UInt16) (h : EndsGroup rest) :
    EndsGroup ((gs.flatMap fun g => ':' :: groupText g) ++ rest) := by
  cases gs with
  | nil => exact h
  | cons g gs => exact endsGroup_colon _

theorem EndsGroup.endsNumber {base : Nat} (hbase : base ≤ 16) (h : EndsGroup rest) :
    EndsNumber base rest :=
  fun c hc => digit?_eq_none_of_sixteen hbase (h c hc).1

theorem EndsGroup.group?_eq_none (h : EndsGroup rest) : group? rest = none := by
  cases rest with
  | nil => rfl
  | cons c r => simp [group?, number?, (h c rfl).1]

theorem EndsGroup.dropWhile_ne (h : EndsGroup rest) (r : List Char) :
    rest.dropWhile (fun c => (digit? 10 c).isSome) ≠ '.' :: r := by
  rw [(h.endsNumber (by decide)).dropWhile_eq]
  rintro rfl
  exact (h '.' rfl).2 rfl

theorem EndsGroup.bytes?_eq_none (h : EndsGroup rest) : bytes? rest = none :=
  IpAddress.bytes?_eq_none h.dropWhile_ne

/-- Groups are not taken for bytes: no point follows their digits. -/
theorem bytes?_groupText_append (g : UInt16) (h : EndsGroup rest) :
    bytes? (groupText g ++ rest) = none := by
  refine IpAddress.bytes?_eq_none fun r hr => ?_
  rw [List.dropWhile_append] at hr
  split at hr
  · exact h.dropWhile_ne r hr
  · -- The first character that is no decimal digit is one of the group.
    rename_i hne
    obtain ⟨c, s, hs⟩ := List.exists_cons_of_ne_nil (mt List.isEmpty_iff.2 hne)
    have hmem : c ∈ groupText g := List.dropWhile_subset _ (hs ▸ List.mem_cons_self)
    have hdigit := isSome_digit?_of_mem_toDigits (by decide) (by decide) hmem
    rw [hs] at hr
    rw [(List.cons.inj hr).1] at hdigit
    exact absurd hdigit (by decide)

theorem group?_append (g : UInt16) (h : EndsGroup rest) :
    group? (groupText g ++ rest) = some (g, rest) := by
  have hlt : g.toNat < 65536 := g.toNat_lt
  have hlength : (Nat.toDigits 16 g.toNat).length ≤ 4 :=
    (Nat.length_toDigits_le_iff (by decide) (by decide)).2 (by omega)
  rw [group?, groupText,
    number?_toDigits_append (by decide) (by decide) _ (h.endsNumber (Nat.le_refl _))]
  simp only [Option.bind_eq_bind, Option.bind_some]
  rw [if_pos hlength, UInt16.ofNat_toNat]

/-- A group is read at the front, and behind a colon. -/
theorem groups_groupText (first : Bool) (n : Nat) (g : UInt16) (h : EndsGroup rest) :
    groups first (n + 1) ((if first then [] else [':']) ++ (groupText g ++ rest)) =
      (g :: (groups false n rest).1, (groups false n rest).2) := by
  have hbytes : (if n = 0 then none else bytes? (groupText g ++ rest)) = none := by
    rw [bytes?_groupText_append g h, ite_self]
  cases first <;> simp [groups, skip?, hbytes, group?_append g h]

theorem groups_of_endsGroups (first : Bool) (n : Nat) (h : EndsGroups rest) :
    groups first n rest = ([], false, rest) := by
  cases n with
  | zero => rfl
  | succ n =>
      have hnone {r : List Char} (hr : EndsGroup r) :
          (if n = 0 then none else bytes? r) = none ∧ group? r = none :=
        ⟨by rw [hr.bytes?_eq_none, ite_self], hr.group?_eq_none⟩
      cases first with
      | true => simp [groups, hnone h.endsGroup]
      | false =>
          cases rest with
          | nil => rfl
          | cons c r =>
              by_cases hc : c = ':'
              · subst hc
                obtain ⟨r, rfl⟩ := List.head?_eq_some_iff.1 (h.colons r rfl)
                simp [groups, skip?, hnone (endsGroup_colon r)]
              · simp [groups, skip?, hc]

theorem groups_flatMap {n : Nat} (hlength : gs.length ≤ n) (hrest : EndsGroups rest) :
    groups false n ((gs.flatMap fun g => ':' :: groupText g) ++ rest) = (gs, false, rest) := by
  induction gs generalizing n with
  | nil => exact groups_of_endsGroups false n hrest
  | cons g gs ih =>
      cases n with
      | zero => simp at hlength
      | succ n =>
          have hstep := groups_groupText false n g (endsGroup_flatMap_append gs hrest.endsGroup)
          rw [ih (by simpa using hlength)] at hstep
          simpa using hstep

/-- All groups of a text are read, up to where no other group follows. -/
theorem groups_textOfGroups {n : Nat} (hlength : gs.length ≤ n) (hrest : EndsGroups rest) :
    groups true n (textOfGroups gs ++ rest) = (gs, false, rest) := by
  cases gs with
  | nil => exact groups_of_endsGroups true n hrest
  | cons g gs =>
      cases n with
      | zero => simp at hlength
      | succ n =>
          have hstep := groups_groupText true n g (endsGroup_flatMap_append gs hrest.endsGroup)
          rw [groups_flatMap (by simpa using hlength) hrest] at hstep
          simpa [textOfGroups_cons] using hstep

end Groups

section Zeros

variable {gs before after : List UInt16} {groups : Vector UInt16 8} {rest : List Char}

theorem eq_take_append_drop_longestRun (gs : List UInt16) :
    gs = gs.take (longestRun gs).1 ++
      (List.replicate (longestRun gs).2 0 ++ gs.drop ((longestRun gs).1 + (longestRun gs).2)) := by
  induction gs with
  | nil => rfl
  | cons g gs ih =>
      by_cases h : (longestRun gs).2 ≤ zeroRun (g :: gs)
      · have hrun : longestRun (g :: gs) = (0, zeroRun (g :: gs)) := if_pos h
        have hzeros : List.replicate (zeroRun (g :: gs)) 0 = (g :: gs).takeWhile (· == 0) := by
          refine (List.eq_replicate_iff.2 ⟨rfl, fun z hz => ?_⟩).symm
          simpa using List.all_eq_true.1 List.all_takeWhile z hz
        have htake : (g :: gs).takeWhile (· == 0) = (g :: gs).take (zeroRun (g :: gs)) :=
          List.prefix_iff_eq_take.1 (List.takeWhile_prefix _)
        rw [hrun, List.take_zero, List.nil_append, Nat.zero_add, hzeros, htake,
          List.take_append_drop]
      · have hrun : longestRun (g :: gs) = ((longestRun gs).1 + 1, (longestRun gs).2) := if_neg h
        rw [hrun, List.take_succ_cons, Nat.add_right_comm, List.drop_succ_cons, List.cons_append,
          ← ih]

theorem ofGroups?_toList (groups : Vector UInt16 8) :
    ofGroups? groups.toList = some (.v6 groups) := by
  simp [ofGroups?, Vector.toList]

theorem v6?_groups (hlength : gs.length = 8) (hrest : EndsGroups rest) :
    v6? (textOfGroups gs ++ rest) = (ofGroups? gs).map (·, rest) := by
  rw [v6?, groups_textOfGroups (Nat.le_of_eq hlength) hrest]
  simp only [hlength, if_true]
  cases ofGroups? gs <;> rfl

/-- The number of zeros that are left out follows from the groups that are not. -/
theorem v6?_of_colons {s t : List Char} {endsInBytes : Bool}
    (hbefore : IpAddress.groups true 8 s = (before, false, ':' :: ':' :: t))
    (hlength : before.length ≠ 8)
    (hafter : IpAddress.groups true (7 - before.length) t = (after, endsInBytes, rest)) :
    v6? s = (ofGroups? (before ++
      (List.replicate (8 - before.length - after.length) 0 ++ after))).map (·, rest) := by
  simp only [v6?, hbefore, hlength, if_false, Bool.false_eq_true, skip?, if_true,
    Option.bind_eq_bind, Option.bind_some, hafter, List.append_assoc]
  cases ofGroups? (before ++ (List.replicate (8 - before.length - after.length) 0 ++ after)) <;> rfl

theorem v6?_compressed {k : Nat} (hk : 0 < k) (hlength : before.length + (k + after.length) = 8)
    (hrest : EndsGroups rest) :
    v6? (textOfGroups before ++ ':' :: ':' :: (textOfGroups after ++ rest)) =
      (ofGroups? (before ++ (List.replicate k 0 ++ after))).map (·, rest) := by
  have hbefore := groups_textOfGroups (n := 8) (by omega : before.length ≤ 8)
    (endsGroups_colons (textOfGroups after ++ rest))
  have hafter := groups_textOfGroups (n := 7 - before.length)
    (by omega : after.length ≤ 7 - before.length) hrest
  rw [v6?_of_colons hbefore (by omega) hafter,
    show 8 - before.length - after.length = k by omega]

theorem toNat_high (g : UInt16) : (UInt8.ofNat (g.toNat / 256)).toNat = g.toNat / 256 := by
  have hlt : g.toNat < 65536 := g.toNat_lt
  exact UInt8.toNat_ofNat_of_lt (by simp only [UInt8.size]; omega)

theorem toNat_low (g : UInt16) : (UInt8.ofNat (g.toNat % 256)).toNat = g.toNat % 256 :=
  UInt8.toNat_ofNat_of_lt (by simp only [UInt8.size]; omega)

theorem groupsOfBytes_of_halves (g h : UInt16) :
    groupsOfBytes (UInt8.ofNat (g.toNat / 256), UInt8.ofNat (g.toNat % 256),
      UInt8.ofNat (h.toNat / 256), UInt8.ofNat (h.toNat % 256)) = [g, h] := by
  simp only [groupsOfBytes, toNat_high, toNat_low, Nat.div_add_mod', UInt16.ofNat_toNat]

theorem v6?_mapped (a b c d : UInt8) (hrest : EndsNumber 10 rest) :
    v6? ([':', ':', 'f', 'f', 'f', 'f', ':'] ++
        (textOfBytes a.toNat b.toNat c.toNat d.toNat ++ rest)) =
      (ofGroups? ([0, 0, 0, 0, 0, 0xFFFF] ++ groupsOfBytes (a, b, c, d))).map (·, rest) := by
  let bytes := textOfBytes a.toNat b.toNat c.toNat d.toNat ++ rest
  have hbytes : IpAddress.groups false 6 (':' :: bytes) =
      (groupsOfBytes (a, b, c, d), true, rest) := by
    simp [IpAddress.groups, skip?, bytes, bytes?_append a b c d hrest]
  have hafter : IpAddress.groups true 7 (groupText 0xFFFF ++ ':' :: bytes) =
      (0xFFFF :: groupsOfBytes (a, b, c, d), true, rest) := by
    have hstep := groups_groupText true 6 0xFFFF (endsGroup_colon bytes)
    rw [hbytes] at hstep
    exact hstep
  have hbefore := groups_of_endsGroups true 8 (endsGroups_colons (groupText 0xFFFF ++ ':' :: bytes))
  exact v6?_of_colons hbefore (by decide) hafter

theorem eq_of_isMapped (hlength : gs.length = 8) (h : isMapped gs = true) :
    gs = [0, 0, 0, 0, 0, 0xFFFF] ++ [gs.getD 6 0, gs.getD 7 0] := by
  have hsix : gs.take 6 = [0, 0, 0, 0, 0, 0xFFFF] := by simpa [isMapped] using h
  rw [← hsix]
  match gs, hlength with
  | [_, _, _, _, _, _, _, _], _ => rfl

/-- The text of an address of groups is read as that address. -/
theorem v6?_text_append (groups : Vector UInt16 8) (hrest : EndsGroups rest) :
    v6? ((v6 groups).text ++ rest) = some (v6 groups, rest) := by
  have hlength : groups.toList.length = 8 := groups.length_toList
  simp only [text]
  split
  · rename_i hmapped
    let g := groups.toList.getD 6 0
    let h := groups.toList.getD 7 0
    have hmap := v6?_mapped (UInt8.ofNat (g.toNat / 256)) (UInt8.ofNat (g.toNat % 256))
      (UInt8.ofNat (h.toNat / 256)) (UInt8.ofNat (h.toNat % 256))
      (hrest.endsGroup.endsNumber (by decide))
    rw [groupsOfBytes_of_halves, ← eq_of_isMapped hlength hmapped, ofGroups?_toList, toNat_high,
      toNat_low, toNat_high, toNat_low] at hmap
    rw [List.append_assoc]
    exact hmap
  · have heq := eq_take_append_drop_longestRun groups.toList
    split
    · rename_i hk
      have hsum := congrArg List.length heq
      rw [hlength, List.length_append, List.length_append, List.length_replicate] at hsum
      rw [List.append_assoc, List.cons_append, List.cons_append,
        v6?_compressed (by omega) hsum.symm hrest, ← heq, ofGroups?_toList]
      rfl
    · rw [v6?_groups hlength hrest, ofGroups?_toList]
      rfl

/-- In the text of an address of groups a colon comes first, or right behind the first group. -/
theorem text_v6_cases (groups : Vector UInt16 8) :
    (∃ r, (v6 groups).text = ':' :: r) ∨ ∃ g r, (v6 groups).text = groupText g ++ ':' :: r := by
  have hlength : groups.toList.length = 8 := groups.length_toList
  simp only [text]
  split
  · exact .inl ⟨_, rfl⟩
  split
  · cases groups.toList.take (longestRun groups.toList).1 with
    | nil => exact .inl ⟨_, rfl⟩
    | cons g gs =>
        rw [textOfGroups_cons, List.append_assoc]
        cases gs with
        | nil => exact .inr ⟨g, _, rfl⟩
        | cons h gs => exact .inr ⟨g, _, rfl⟩
  · match groups.toList, hlength with
    | g :: h :: gs, _ =>
        rw [textOfGroups_cons]
        exact .inr ⟨g, _, rfl⟩

theorem bytes?_text_v6_append (groups : Vector UInt16 8) (rest : List Char) :
    bytes? ((v6 groups).text ++ rest) = none := by
  rcases text_v6_cases groups with ⟨r, heq⟩ | ⟨g, r, heq⟩
  · rw [heq]
    exact (endsGroup_colon _).bytes?_eq_none
  · rw [heq, List.append_assoc]
    exact bytes?_groupText_append g (endsGroup_colon _)

/-- The text of an address of groups does not begin with a bracket. -/
theorem skip?_bracket_text_v6_append (groups : Vector UInt16 8) (rest : List Char) :
    skip? '[' ((v6 groups).text ++ rest) = none := by
  rcases text_v6_cases groups with ⟨r, heq⟩ | ⟨g, r, heq⟩
  · rw [heq]
    rfl
  · rw [heq]
    obtain ⟨c, s, hs⟩ := List.exists_cons_of_ne_nil (Nat.toDigits_ne_nil (n := g.toNat) (b := 16))
    have hdigit := isSome_digit?_of_mem_toDigits (by decide) (by decide)
      (hs ▸ List.mem_cons_self : c ∈ Nat.toDigits 16 g.toNat)
    rw [groupText, hs]
    refine if_neg fun hc => ?_
    rw [hc] at hdigit
    exact absurd hdigit (by decide)

end Zeros

end IpAddress

namespace SocketAddress

open IpAddress

variable {rest : List Char}

theorem bounded?_append {bound n : Nat} (hn : n < bound) (hrest : EndsNumber 10 rest) :
    bounded? bound (decimal n ++ rest) = some (n, rest) := by
  rw [bounded?, decimal, number?_toDigits_append (by decide) (by decide) n hrest]
  exact if_pos hn

theorem port?_text (port : UInt16) : port? (':' :: decimal port.toNat) = some (port, []) := by
  have hport : bounded? (Nat.pow 2 16) (decimal port.toNat ++ []) = some (port.toNat, []) :=
    bounded?_append port.toNat_lt (endsNumber_nil 10)
  rw [List.append_nil] at hport
  simp [port?, skip?, hport]

def scopeText (scope : UInt32) : List Char :=
  if scope = 0 then [] else '%' :: decimal scope.toNat

theorem readScope_append (scope : UInt32) (s : List Char) :
    readScope (scopeText scope ++ ']' :: s) = (scope, ']' :: s) := by
  by_cases h : scope = 0
  · simp [scopeText, h, readScope, skip?]
  · have hbracket : EndsNumber 10 (']' :: s) := endsNumber_cons s (by decide)
    have hscope : bounded? (Nat.pow 2 32) (decimal scope.toNat ++ ']' :: s) =
        some (scope.toNat, ']' :: s) := bounded?_append scope.toNat_lt hbracket
    simp [scopeText, h, readScope, skip?, hscope]

theorem endsGroups_scopeText_append (scope : UInt32) (s : List Char) :
    EndsGroups (scopeText scope ++ ']' :: s) := by
  rw [scopeText]
  split
  · exact endsGroups_cons s (by decide) (by decide) (by decide)
  · exact endsGroups_cons _ (by decide) (by decide) (by decide)

theorem ofText?_text_v4 (a b c d : UInt8) (port : UInt16) :
    ofText? (text { ip := .v4 a b c d, port }) = some { ip := .v4 a b c d, port } := by
  have hcolon : EndsNumber 10 (':' :: decimal port.toNat) := endsNumber_cons _ (by decide)
  simp [ofText?, text, IpAddress.text, v4?, IpAddress.v4?, bytes?_append a b c d hcolon, port?_text]

theorem ofText?_text_v6 (groups : Vector UInt16 8) (port : UInt16) (scope : UInt32) :
    ofText? (text { ip := .v6 groups, port, scope }) = some { ip := .v6 groups, port, scope } := by
  let rest := scopeText scope ++ ']' :: ':' :: decimal port.toNat
  have htext : (text { ip := .v6 groups, port, scope }).toList =
      '[' :: ((IpAddress.v6 groups).text ++ rest) := by
    simp [text, rest, scopeText]
  have hbytes : bytes? ('[' :: ((IpAddress.v6 groups).text ++ rest)) = none := rfl
  have hip : IpAddress.v6? ((IpAddress.v6 groups).text ++ rest) = some (.v6 groups, rest) :=
    v6?_text_append groups (endsGroups_scopeText_append scope _)
  have hscope : readScope rest = (scope, ']' :: ':' :: decimal port.toNat) :=
    readScope_append scope _
  simp [ofText?, htext, v4?, IpAddress.v4?, hbytes, v6?, skip?, hip, hscope, port?_text]

/-- Without brackets the groups are not told from the port. -/
theorem ofText?_unbracketed (groups : Vector UInt16 8) (rest : List Char) :
    ofText? (String.ofList ((IpAddress.v6 groups).text ++ rest)) = none := by
  simp [ofText?, v4?, IpAddress.v4?, bytes?_text_v6_append, v6?, skip?_bracket_text_v6_append]

end SocketAddress

end RemoteConsole
