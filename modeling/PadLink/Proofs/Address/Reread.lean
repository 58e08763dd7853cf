import PadLink.Address.Reader

set_option autoImplicit false

/-! # Reading the text of an address

The text of an address is read back as that address (`SocketAddress.ofText?_text`,
`IpAddress.ofText?_text`), for every address there is.

A scanner stops at what follows only if that does not read on as a number (`Stops`); what follows a
group must not be a dot either, or the group would have been the first number of an IPv4 address. Where
the run of zeros stands that an IPv6 text leaves out does not matter for reading it: between the colons
there is room for exactly the groups that are not written, and those are zero wherever they are
(`IPv6.scan?_leftOut`). -/

namespace PadLink

/-- The text does not read on as a number in the base. -/
def Stops (base : Nat) (rest : List Char) : Prop :=
  ∀ c ∈ rest.head?, Digits.isDigit base c = false

theorem stops_nil (base : Nat) : Stops base [] := nofun

theorem stops_cons {base : Nat} {c : Char} (h : Digits.isDigit base c = false) (rest : List Char) :
    Stops base (c :: rest) := by
  intro d hd
  rwa [← Option.some.inj hd]

/-- A decimal digit is also a hexadecimal one. -/
theorem isDigit_hexadecimal {c : Char} (h : Digits.isDigit 10 c = true) :
    Digits.isDigit 16 c = true := by
  simp only [Digits.isDigit, Digits.value?] at h ⊢
  by_cases hdecimal : '0' ≤ c ∧ c ≤ '9'
  · rw [if_pos hdecimal] at h ⊢
    split at h
    · next hsmall => rw [if_pos (by omega)]; rfl
    · cases h
  · -- A letter stands for ten at least.
    have hletter : 10 ≤ (if 'a' ≤ c ∧ c ≤ 'f' then c.toNat - 'a'.toNat + 10
        else if 'A' ≤ c ∧ c ≤ 'F' then c.toNat - 'A'.toNat + 10 else 10) := by
      repeat' split
      all_goals omega
    rw [if_neg hdecimal, if_neg (by omega)] at h
    cases h

theorem Stops.decimal {rest : List Char} (h : Stops 16 rest) : Stops 10 rest := by
  intro c hc
  cases hdigit : Digits.isDigit 10 c with
  | false => rfl
  | true => exact absurd (isDigit_hexadecimal hdigit) (by rw [h c hc]; decide)

@[simp]
theorem scanChar?_cons (c : Char) (rest : List Char) : scanChar? c (c :: rest) = some rest :=
  if_pos rfl

theorem scanChar?_eq_none {c : Char} {text : List Char} (h : text.head? ≠ some c) :
    scanChar? c text = none := by
  cases text with
  | nil => rfl
  | cons d rest => exact if_neg fun hd => h (congrArg some hd)

/-! ## IPv4 -/

namespace IPv4

theorem scanOctet?_toDigits (n : UInt8) {rest : List Char} (h : Stops 10 rest) :
    scanOctet? (Nat.toDigits 10 n.toNat ++ rest) = some (n, rest) := by
  have haccepts : ∀ k : Fin 256, ((Nat.toDigits 10 k.val).length ≤ 3
      && ((Nat.toDigits 10 k.val).length == 1 || (Nat.toDigits 10 k.val).head? != some '0')) = true := by
    decide +kernel
  rw [scanOctet?, Digits.scanNumber?_toDigits (by decide) (by decide) n.toNat_lt
    (haccepts ⟨n.toNat, n.toNat_lt⟩) h]
  simp

theorem scan?_text (ip : IPv4) {rest : List Char} (h : Stops 10 rest) :
    scan? (ip.text ++ rest) = some (ip, rest) := by
  have hdot : ∀ more, Stops 10 ('.' :: more) := stops_cons (by decide)
  simp [scan?, text, scanOctet?_toDigits, hdot, h]

/-- Without a dot behind the first digits there is no address. -/
theorem scan?_eq_none {text : List Char}
    (h : (text.dropWhile (Digits.isDigit 10)).head? ≠ some '.') : scan? text = none := by
  have hdot := scanChar?_eq_none h
  simp only [scan?, scanOctet?, Digits.scanNumber?]
  split
  · simp [hdot]
  · rfl

/-- The bytes of a group put together are the group. -/
theorem bytes_group (group : UInt16) :
    (group / 256).toUInt8.toUInt16 * 256 + group.toUInt8.toUInt16 = group := by
  apply UInt16.toNat_inj.1
  simp only [UInt16.toNat_add, UInt16.toNat_mul, UInt8.toNat_toUInt16, UInt16.toNat_toUInt8,
    UInt16.toNat_div, UInt16.reduceToNat]
  have := group.toNat_lt
  omega

theorem groups_ofGroups (high low : UInt16) : (ofGroups high low).groups = (high, low) := by
  rw [ofGroups, groups, bytes_group, bytes_group]

end IPv4

/-! ## Groups -/

namespace IPv6

/-- The text reads on neither as a group nor as an IPv4 address. -/
structure Closes (rest : List Char) : Prop where
  stops : Stops 16 rest
  noDot : rest.head? ≠ some '.'

theorem closes_cons {c : Char} (h : Digits.isDigit 16 c = false ∧ c ≠ '.') (rest : List Char) :
    Closes (c :: rest) :=
  ⟨stops_cons h.1 rest, fun hdot => h.2 (Option.some.inj hdot)⟩

theorem closes_nil : Closes [] := ⟨stops_nil 16, nofun⟩

theorem scanGroup?_toDigits (group : UInt16) {rest : List Char} (h : Stops 16 rest) :
    scanGroup? (Nat.toDigits 16 group.toNat ++ rest) = some (group, rest) := by
  have hshort : (Nat.toDigits 16 group.toNat).length ≤ 4 :=
    (Nat.length_toDigits_le_iff (by decide) (by decide)).2 group.toNat_lt
  rw [scanGroup?, Digits.scanNumber?_toDigits (by decide) (by decide) group.toNat_lt
    (decide_eq_true hshort) h]
  simp

theorem scanGroup?_eq_none {text : List Char} (h : Stops 16 text) : scanGroup? text = none := by
  have hnone : text.takeWhile (Digits.isDigit 16) = [] := by
    cases text with
    | nil => rfl
    | cons c rest => simp [h c rfl]
  simp [scanGroup?, Digits.scanNumber?, hnone]

/-- A group with no dot behind it is not the beginning of an IPv4 address. -/
theorem scanIPv4?_toDigits (group : UInt16) {rest : List Char} (h : Closes rest) :
    IPv4.scan? (Nat.toDigits 16 group.toNat ++ rest) = none := by
  apply IPv4.scan?_eq_none
  rw [List.dropWhile_append]
  split
  · cases rest with
    | nil => exact nofun
    | cons c rest =>
      rw [List.dropWhile_cons_of_neg (by simp [h.stops.decimal c rfl])]
      exact h.noDot
  · next hletters =>
    -- What is left of the group begins with one of its digits.
    cases hdrop : (Nat.toDigits 16 group.toNat).dropWhile (Digits.isDigit 10) with
    | nil => exact absurd (by rw [hdrop]; rfl) hletters
    | cons c letters =>
      rw [List.cons_append, List.head?_cons]
      rintro hc
      obtain rfl := Option.some.inj hc
      have hmem : '.' ∈ Nat.toDigits 16 group.toNat :=
        (List.dropWhile_sublist _).subset (by rw [hdrop]; exact List.mem_cons_self)
      exact absurd (Digits.isDigit_of_mem_toDigits (by decide) (by decide) _ _ hmem) (by decide)

theorem scanIPv4?_eq_none {text : List Char} (h : Closes text) : IPv4.scan? text = none := by
  apply IPv4.scan?_eq_none
  cases text with
  | nil => exact nofun
  | cons c rest =>
    rw [List.dropWhile_cons_of_neg (by simp [h.stops.decimal c rfl])]
    exact h.noDot

/-- The text in front of which a sequence of groups ends, whatever room is left. -/
def Ends (rest : List Char) : Prop :=
  ∀ room isFirst, scanGroups room isFirst rest = ⟨[], false, rest⟩

theorem ends_of_closes {rest : List Char} (h : Closes rest) (hcolon : rest.head? ≠ some ':') :
    Ends rest := by
  intro room isFirst
  cases room with
  | zero => rfl
  | succ room =>
    cases isFirst with
    | false => simp [scanGroups, scanChar?_eq_none hcolon]
    | true => simp [scanGroups, scanIPv4?_eq_none h, scanGroup?_eq_none h.stops]

theorem ends_colons (rest : List Char) : Ends (':' :: ':' :: rest) := by
  intro room isFirst
  have hclose : ∀ more, Closes (':' :: more) := closes_cons (by decide)
  cases room with
  | zero => rfl
  | succ room =>
    cases isFirst <;>
      simp [scanGroups, scanIPv4?_eq_none (hclose _), scanGroup?_eq_none (hclose _).stops]

/-- Groups with a colon in front of each. -/
def behindText (groups : List UInt16) : List Char :=
  groups.flatMap fun group => ':' :: Nat.toDigits 16 group.toNat

theorem groupsText_cons (group : UInt16) (groups : List UInt16) :
    groupsText (group :: groups) = Nat.toDigits 16 group.toNat ++ behindText groups := by
  induction groups generalizing group with
  | nil => simp [groupsText, behindText]
  | cons next groups ih => rw [groupsText, ih]; simp [behindText]; simp

theorem closes_behindText (groups : List UInt16) {rest : List Char} (h : Closes rest) :
    Closes (behindText groups ++ rest) := by
  cases groups with
  | nil => exact h
  | cons group groups => exact closes_cons (by decide) _

/-- A group is taken off the front of a sequence. -/
theorem scanGroups_cons {room : Nat} {isFirst : Bool} {text : List Char} {group : UInt16}
    {rest : List Char}
    (hbody : (if isFirst then some text else scanChar? ':' text)
      = some (Nat.toDigits 16 group.toNat ++ rest)) (h : Closes rest) :
    scanGroups (room + 1) isFirst text
      = ⟨group :: (scanGroups room false rest).groups, (scanGroups room false rest).dotted,
          (scanGroups room false rest).rest⟩ := by
  simp only [scanGroups, hbody, scanIPv4?_toDigits group h, ite_self, scanGroup?_toDigits group h.stops]

theorem scanGroups_behindText (groups : List UInt16) {room : Nat} {rest : List Char} (h : Closes rest)
    (hend : scanGroups room false rest = ⟨[], false, rest⟩) :
    scanGroups (groups.length + room) false (behindText groups ++ rest) = ⟨groups, false, rest⟩ := by
  induction groups with
  | nil => rw [List.length_nil, Nat.zero_add]; exact hend
  | cons group groups ih =>
    have htext : scanChar? ':' (behindText (group :: groups) ++ rest)
        = some (Nat.toDigits 16 group.toNat ++ (behindText groups ++ rest)) := by simp [behindText]
    rw [List.length_cons, Nat.add_right_comm,
      scanGroups_cons ((if_neg Bool.false_ne_true).trans htext) (closes_behindText groups h), ih]

/-- A sequence of groups is read up to where it ends. -/
theorem scanGroups_groupsText (groups : List UInt16) (room : Nat) {rest : List Char} (h : Closes rest)
    (hend : ∀ isFirst, scanGroups room isFirst rest = ⟨[], false, rest⟩) :
    scanGroups (groups.length + room) true (groupsText groups ++ rest) = ⟨groups, false, rest⟩ := by
  cases groups with
  | nil => rw [List.length_nil, Nat.zero_add]; exact hend true
  | cons group groups =>
    rw [groupsText_cons, List.append_assoc, List.length_cons, Nat.add_right_comm,
      scanGroups_cons (if_pos rfl) (closes_behindText groups h),
      scanGroups_behindText groups h (hend false)]

/-! ## IPv6 -/

/-- Eight groups are the address. -/
theorem scan?_groupsText (ip : IPv6) {rest : List Char} (h : Closes rest) :
    scan? (groupsText ip.groups.toList ++ rest) = some (ip, rest) := by
  have hrun := scanGroups_groupsText ip.groups.toList 0 h fun _ => rfl
  rw [Vector.length_toList] at hrun
  simp only [scan?, hrun, Vector.length_toList, if_pos, ofList_toList]

/-- Where groups are left out there are zeros. -/
theorem scan?_leftOut {front back : List UInt16} (hroom : front.length + back.length < 8)
    {rest : List Char} (h : Closes rest) (hcolon : rest.head? ≠ some ':') :
    scan? (groupsText front ++ ':' :: ':' :: (groupsText back ++ rest))
      = some (.ofList (front ++ List.replicate (8 - front.length - back.length) 0 ++ back), rest) := by
  have hfront := scanGroups_groupsText front (8 - front.length)
    (closes_cons (by decide) _) (ends_colons (groupsText back ++ rest) _)
  have hback := scanGroups_groupsText back (7 - front.length - back.length) h
    (ends_of_closes h hcolon _)
  rw [show front.length + (8 - front.length) = 8 by omega] at hfront
  rw [show back.length + (7 - front.length - back.length) = 7 - front.length by omega] at hback
  simp only [scan?, hfront, hback]
  rw [if_neg (by omega), if_neg Bool.false_ne_true]

/-- An address that carries an IPv4 address is read up to the end of that. -/
theorem scan?_carrying (carried : IPv4) {rest : List Char} (h : Stops 10 rest) :
    scan? ("::ffff:".toList ++ carried.text ++ rest)
      = some (.ofList [0, 0, 0, 0, 0, 0xffff, carried.groups.1, carried.groups.2], rest) := by
  have hfront := ends_colons ('f' :: 'f' :: 'f' :: 'f' :: ':' :: (carried.text ++ rest)) 8 true
  have hlast : scanGroups 6 false (':' :: (carried.text ++ rest))
      = ⟨[carried.groups.1, carried.groups.2], true, rest⟩ := by
    simp [scanGroups, IPv4.scan?_text carried h]
  have hback : scanGroups 7 true ('f' :: 'f' :: 'f' :: 'f' :: ':' :: (carried.text ++ rest))
      = ⟨[0xffff, carried.groups.1, carried.groups.2], true, rest⟩ := by
    have hgroup : some ('f' :: 'f' :: 'f' :: 'f' :: ':' :: (carried.text ++ rest))
        = some (Nat.toDigits 16 (0xffff : UInt16).toNat ++ ':' :: (carried.text ++ rest)) := rfl
    rw [scanGroups_cons ((if_pos rfl).trans hgroup) (closes_cons (by decide) _), hlast]
  have htext : "::ffff:".toList ++ carried.text ++ rest
      = ':' :: ':' :: 'f' :: 'f' :: 'f' :: 'f' :: ':' :: (carried.text ++ rest) := rfl
  rw [htext, scan?]
  simp only [hfront, List.length_nil, Nat.sub_zero, hback]
  rw [if_neg (by decide), if_neg Bool.false_ne_true]
  simp only [List.length_cons, List.length_nil]
  rfl

/-- The zero groups from a place on, with what is in front of them and behind. -/
theorem zeroRun_split (groups : List UInt16) (start : Nat) :
    groups.take start ++ List.replicate (zeroRun groups start) 0
      ++ groups.drop (start + zeroRun groups start) = groups := by
  have hzeros : (groups.drop start).takeWhile (· == 0) = List.replicate (zeroRun groups start) 0 := by
    refine List.eq_replicate_iff.2 ⟨rfl, fun group hgroup => ?_⟩
    have := List.all_eq_true.1 (List.all_takeWhile (p := (· == (0 : UInt16)))) group hgroup
    exact eq_of_beq this
  have hsplit := List.takeWhile_append_dropWhile (p := (· == (0 : UInt16))) (l := groups.drop start)
  have hbehind : groups.drop (start + zeroRun groups start) = (groups.drop start).dropWhile (· == 0) := by
    rw [← List.drop_drop, ← hsplit, zeroRun, List.drop_left]
    rw [hsplit]
  rw [hbehind, ← hzeros, List.append_assoc, hsplit, List.take_append_drop]

/-- How the text of an address comes about. -/
theorem text_cases (ip : IPv6) :
    (∃ carried : IPv4, ip = .ofList [0, 0, 0, 0, 0, 0xffff, carried.groups.1, carried.groups.2]
      ∧ ip.text = "::ffff:".toList ++ carried.text)
    ∨ (∃ front back, front.length + back.length < 8
      ∧ ip = .ofList (front ++ List.replicate (8 - front.length - back.length) 0 ++ back)
      ∧ ip.text = groupsText front ++ ':' :: ':' :: groupsText back)
    ∨ ip.text = groupsText ip.groups.toList := by
  rw [text]
  split
  · next carried hmapped =>
    refine Or.inl ⟨carried, ?_, rfl⟩
    unfold mapped? at hmapped
    split at hmapped
    · next high low hgroups =>
      obtain rfl := Option.some.inj hmapped
      rw [IPv4.groups_ofGroups, ← hgroups, ofList_toList]
    · cases hmapped
  · right
    dsimp only
    split
    · next hrun =>
      have hsplit := zeroRun_split ip.groups.toList (longestZeroRun ip.groups.toList)
      have hlength := congrArg List.length hsplit
      simp only [List.length_append, List.length_replicate, Vector.length_toList] at hlength
      refine Or.inl ⟨_, _, by omega, ?_, rfl⟩
      rw [show 8 - _ - _ = zeroRun ip.groups.toList (longestZeroRun ip.groups.toList) by omega,
        hsplit, ofList_toList]
    · exact Or.inr rfl

/-- The text of an address is read off the front of what it is the beginning of. -/
theorem scan?_text (ip : IPv6) {rest : List Char} (h : Closes rest) (hcolon : rest.head? ≠ some ':') :
    scan? (ip.text ++ rest) = some (ip, rest) := by
  obtain ⟨carried, hip, htext⟩ | ⟨front, back, hroom, hip, htext⟩ | htext := text_cases ip
  · rw [htext, scan?_carrying carried h.stops.decimal, ← hip]
  · rw [htext, List.append_assoc, List.cons_append, List.cons_append, scan?_leftOut hroom h hcolon,
      ← hip]
  · rw [htext, scan?_groupsText ip h]

theorem scanIPv4?_groupsText (groups : List UInt16) {rest : List Char} (h : Closes rest) :
    IPv4.scan? (groupsText groups ++ rest) = none := by
  cases groups with
  | nil => exact scanIPv4?_eq_none h
  | cons group groups =>
    rw [groupsText_cons, List.append_assoc]
    exact scanIPv4?_toDigits group (closes_behindText groups h)

/-- The text of an IPv6 address does not begin as an IPv4 address. -/
theorem scanIPv4?_text (ip : IPv6) {rest : List Char} (h : Closes rest) :
    IPv4.scan? (ip.text ++ rest) = none := by
  obtain ⟨carried, -, htext⟩ | ⟨front, back, -, -, htext⟩ | htext := text_cases ip
  · rw [htext]
    exact scanIPv4?_eq_none (closes_cons (by decide) _)
  · rw [htext, List.append_assoc]
    exact scanIPv4?_groupsText front (closes_cons (by decide) _)
  · rw [htext]
    exact scanIPv4?_groupsText _ h

end IPv6

/-! ## Readers -/

/-- The text of an address means that address. -/
theorem IpAddress.ofText?_text (address : IpAddress) : ofText? address.text = some address := by
  cases address with
  | v4 ip =>
    have hscan := IPv4.scan?_text ip (stops_nil 10)
    rw [List.append_nil] at hscan
    simp [ofText?, text, hscan, whole?]
  | v6 ip =>
    have hscan := IPv6.scan?_text ip IPv6.closes_nil nofun
    have hother := IPv6.scanIPv4?_text ip IPv6.closes_nil
    rw [List.append_nil] at hscan hother
    simp [ofText?, text, hscan, hother, whole?]

namespace SocketAddress

theorem scanPort?_toDigits (port : UInt16) :
    scanPort? (':' :: Nat.toDigits 10 port.toNat) = some (port, []) := by
  have hport : Digits.scanNumber? 10 65536 (fun _ => true) (Nat.toDigits 10 port.toNat ++ [])
      = some (port.toNat, []) :=
    Digits.scanNumber?_toDigits (by decide) (by decide) port.toNat_lt rfl (stops_nil 10)
  rw [List.append_nil] at hport
  rw [scanPort?, scanChar?_cons, Option.bind_eq_bind, Option.bind_some, hport]
  simp

/-- A scope with the bracket behind it. -/
theorem scanScope_text (scope : UInt32) (rest : List Char) :
    scanScope ((if scope = 0 then [] else '%' :: Nat.toDigits 10 scope.toNat) ++ ']' :: rest)
      = (scope, ']' :: rest) := by
  split
  · next hzero => rw [hzero]; rfl
  · have hscope : Digits.scanNumber? 10 UInt32.size (fun _ => true)
          (Nat.toDigits 10 scope.toNat ++ ']' :: rest) = some (scope.toNat, ']' :: rest) :=
      Digits.scanNumber?_toDigits (by decide) (by decide) scope.toNat_lt rfl
        (stops_cons (by decide) rest)
    rw [List.cons_append, scanScope]
    simp only [hscope, UInt32.ofNat_toNat]

/-- The text of a socket address means that address. -/
theorem ofText?_text (address : SocketAddress) : ofText? address.text = some address := by
  cases address with
  | v4 ip port =>
    have hport : Stops 10 (':' :: Nat.toDigits 10 port.toNat) := stops_cons (by decide) _
    have hscan := IPv4.scan?_text ip hport
    simp [ofText?, text, scanV4?, hscan, scanPort?_toDigits, whole?]
  | v6 ip scope port =>
    have hbehind : ∀ more, IPv6.Closes
          ((if scope = 0 then [] else '%' :: Nat.toDigits 10 scope.toNat) ++ ']' :: more)
        ∧ ((if scope = 0 then [] else '%' :: Nat.toDigits 10 scope.toNat) ++ ']' :: more).head?
          ≠ some ':' := by
      intro more
      split <;> exact ⟨IPv6.closes_cons (by decide) _, by simp⟩
    have hscan := IPv6.scan?_text ip (hbehind (':' :: Nat.toDigits 10 port.toNat)).1 (hbehind _).2
    have hother : IPv4.scan? (text (.v6 ip scope port)) = none :=
      IPv6.scanIPv4?_eq_none (IPv6.closes_cons (c := '[') (by decide) _)
    have hwhole : scanV6? (text (.v6 ip scope port)) = some (.v6 ip scope port, []) := by
      simp only [scanV6?, text, List.cons_append, List.append_assoc, scanChar?_cons,
        Option.bind_eq_bind, Option.bind_some, hscan, scanScope_text, scanPort?_toDigits, Option.pure_def]
    rw [ofText?, scanV4?, hother, hwhole]
    rfl

/-- The longer of two runs of zeros is left out, and read again. -/
example :
    (v6 (.ofList [0xfe80, 0, 0, 1, 0, 0, 0, 5]) 7 80).text = "[fe80:0:0:1::5%7]:80".toList
    ∧ ofText? "[fe80:0:0:1::5%7]:80".toList = some (.v6 (.ofList [0xfe80, 0, 0, 1, 0, 0, 0, 5]) 7 80) := by
  decide +kernel

end SocketAddress
end PadLink
