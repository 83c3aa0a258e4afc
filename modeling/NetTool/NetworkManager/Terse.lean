import NetTool.Address
import NetTool.NetworkManager.Restore
/-!
# NetworkManager.Terse — values as `nmcli` prints them

`nmcli --get-values` prints terse output: a backslash stands before every colon and backslash of a value.  The executor
takes the text as it is.  So a verification finds the value it has written only if the value holds neither, which an
IPv6 address always does, and a restore writes back a text with the backslashes (`text_fidelity_iff`).
-/
namespace NetTool
namespace NetworkManager

open Prog Str Helper Numeral List

/-! ## Escaping -/

def isEscaped (c : Char) : Bool := c == ':' || c == '\\'

def escape (value : Str) : Str := value.flatMap (fun c => if isEscaped c then ['\\', c] else [c])

def terse (value : Str) : Str := escape value ++ ['\n']

def Plain (value : Str) : Prop := ∀ c ∈ value, isEscaped c = false

instance (value : Str) : Decidable (Plain value) :=
  decidable_of_iff (value.all (fun c => !isEscaped c) = true) (by simp [Plain])

theorem escape_of_plain {value : Str} (h : Plain value) : escape value = value := by
  induction value with
  | nil => rfl
  | cons c value ih =>
    have hrest := ih fun x hx => h x (mem_cons_of_mem _ hx)
    unfold escape at hrest ⊢
    rw [flatMap_cons, hrest, h c mem_cons_self]
    rfl

variable (value : Str)

theorem count_escape : (escape value).count '\\' = value.count '\\' + value.countP isEscaped := by
  induction value with
  | nil => rfl
  | cons c value ih =>
    unfold escape at ih ⊢
    rw [flatMap_cons, count_append, countP_cons, count_cons]
    by_cases hc : isEscaped c = true
    · rw [if_pos hc, if_pos hc, count_cons, count_cons, count_nil, if_pos (beq_self_eq_true _)]
      omega
    · rw [if_neg hc, if_neg hc, count_cons, count_nil]
      omega

theorem trim_terse : trim (terse value) = trim (escape value) := trim_append_of_all (all_eq_true.1 (by decide)) _

theorem count_trim_terse : (trim (terse value)).count '\\' = value.count '\\' + value.countP isEscaped := by
  rw [trim_terse, count_trim (by decide), count_escape]

theorem plain_of_countP {value : Str} (h : value.countP isEscaped = 0) : Plain value := by
  intro c hc
  simpa using countP_eq_zero.1 h c hc

/-- **A value is read as it is** if nothing in it is escaped and no white space is around it. -/
theorem trim_terse_eq_iff : trim (terse value) = value ↔ Plain value ∧ trim value = value := by
  constructor
  · intro h
    have hplain : Plain value := by
      apply plain_of_countP
      have hcount := count_trim_terse value
      rw [h] at hcount
      omega
    refine ⟨hplain, ?_⟩
    rw [trim_terse, escape_of_plain hplain] at h
    exact h
  · rintro ⟨hplain, htrim⟩
    rw [trim_terse, escape_of_plain hplain, htrim]

/-! ## `normalize_property` -/

theorem comma_of_isWhitespace {c : Char} (h : isWhitespace c = true) : c ≠ ',' := by
  rintro rfl
  revert h
  decide

/-- White space at the end goes to the last item. -/
theorem splitOn_append {w : Str} (hw : ',' ∉ w) (s : Str) :
    ∃ front last, s.splitOn ',' = front ++ [last] ∧ (s ++ w).splitOn ',' = front ++ [last ++ w] := by
  induction s with
  | nil =>
    refine ⟨[], [], rfl, ?_⟩
    exact splitOnP_eq_singleton fun c hc => by
      have hne : c ≠ ',' := fun heq => hw (heq ▸ hc)
      simpa using hne
  | cons c s ih =>
    obtain ⟨front, last, hs, hsw⟩ := ih
    rw [cons_append]
    by_cases hc : c = ','
    · subst hc
      exact ⟨[] :: front, last, by rw [splitOn_cons_self, hs]; rfl, by rw [splitOn_cons_self, hsw]; rfl⟩
    · rw [splitOn_cons_of_ne hc, splitOn_cons_of_ne hc, hs, hsw]
      cases front with
      | nil => exact ⟨[], c :: last, rfl, rfl⟩
      | cons f front => exact ⟨(c :: f) :: front, last, rfl, rfl⟩

theorem normalizeProperty_trimStart (s : Str) : normalizeProperty (trimStart s) = normalizeProperty s := by
  induction s with
  | nil => rfl
  | cons c s ih =>
    by_cases hc : isWhitespace c = true
    · have hstart : trimStart (c :: s) = trimStart s := by
        unfold trimStart
        rw [dropWhile_cons_of_pos hc]
      rw [hstart, ih]
      unfold normalizeProperty
      rw [splitOn_cons_of_ne (comma_of_isWhitespace hc)]
      obtain ⟨front, last, hs, -⟩ := splitOn_append (w := []) (by simp) s
      rw [hs]
      have htrim : ∀ item, trim (c :: item) = trim item := trim_append_left (w := [c]) (by simpa using hc)
      cases front with
      | nil => simp [htrim]
      | cons f front => simp [htrim]
    · rw [trimStart_cons (by simpa using hc)]

theorem normalizeProperty_trimEnd (s : Str) : normalizeProperty (trimEnd s) = normalizeProperty s := by
  have happend : trimEnd s ++ s.rtakeWhile isWhitespace = s := rdropWhile_append_rtakeWhile
  have hspace : ∀ c ∈ s.rtakeWhile isWhitespace, isWhitespace c = true := fun c hc => mem_rtakeWhile_imp hc
  obtain ⟨front, last, hs, hsw⟩ := splitOn_append (fun hc => comma_of_isWhitespace (hspace ',' hc) rfl) (trimEnd s)
  rw [happend] at hsw
  unfold normalizeProperty
  rw [hs, hsw, map_append, map_append, map_singleton, map_singleton, trim_append_of_all hspace]

/-- **White space around a value does not matter.** -/
theorem normalizeProperty_trim (s : Str) : normalizeProperty (trim s) = normalizeProperty s := by
  unfold trim
  rw [normalizeProperty_trimEnd, normalizeProperty_trimStart]

theorem count_normalizeProperty {c : Char} (hcomma : c ≠ ',') (hspace : isWhitespace c = false) (s : Str) :
    (normalizeProperty s).count c = s.count c := by
  have hfilter : ∀ items : List Str, ((items.filter (fun item => !item.isEmpty)).map (List.count c)).sum =
    (items.map (List.count c)).sum := by
    intro items
    induction items with
    | nil => rfl
    | cons item items ih =>
      cases item with
      | nil => simpa using ih
      | cons x item => simp [ih]
  have htrim : ((s.splitOn ',').map trim).map (List.count c) = (s.splitOn ',').map (List.count c) := by
    rw [map_map]
    exact map_congr_left fun item _ => count_trim hspace item
  unfold normalizeProperty
  rw [count_intercalate hcomma, hfilter, htrim, ← count_intercalate hcomma, intercalate_splitOn]

/-- **A written value is found again** if nothing in it is escaped. -/
theorem normalizeProperty_terse_iff : normalizeProperty (trim (terse value)) = normalizeProperty value ↔
    Plain value := by
  constructor
  · intro h
    have hcount := congrArg (List.count '\\') h
    rw [count_normalizeProperty (by decide) (by decide), count_normalizeProperty (by decide) (by decide),
      count_trim_terse] at hcount
    exact plain_of_countP (by omega)
  · intro h
    rw [trim_terse, escape_of_plain h, normalizeProperty_trim]

/-! ## The characters of what is written -/

theorem plain_nil : Plain [] := by simp [Plain]

theorem plain_append {a b : Str} : Plain (a ++ b) ↔ Plain a ∧ Plain b := by
  exact forall_mem_append

theorem plain_cons {c : Char} {s : Str} (hc : isEscaped c = false) : Plain (c :: s) ↔ Plain s := by
  unfold Plain
  rw [forall_mem_cons]
  exact and_iff_right hc

theorem plain_intercalate {sep : Char} (hsep : isEscaped sep = false) (items : List Str) :
    Plain ([sep].intercalate items) ↔ ∀ item ∈ items, Plain item := by
  induction items with
  | nil => simp [plain_nil]
  | cons item items ih =>
    rw [forall_mem_cons, ← ih]
    by_cases hnil : items = []
    · subst hnil
      simp [plain_nil]
    · rw [intercalate_cons_of_ne_nil hnil, plain_append, plain_append]
      simp [Plain, hsep]

theorem isEscaped_of {P : Char → Prop} (hcolon : ¬ P ':') (hbackslash : ¬ P '\\') {c : Char} (h : P c) :
    isEscaped c = false := by
  unfold isEscaped
  rw [Bool.or_eq_false_iff, beq_eq_false_iff_ne, beq_eq_false_iff_ne]
  exact ⟨fun heq => hcolon (heq ▸ h), fun heq => hbackslash (heq ▸ h)⟩

theorem isEscaped_of_toDigit {c : Char} (h : (toDigit 16 c).isSome = true) : isEscaped c = false :=
  isEscaped_of (P := fun c => (toDigit 16 c).isSome = true) (by decide) (by decide) h

theorem plain_toString (n : Nat) : Plain (toString n).toList := by
  intro c hc
  have hdigit : c ∈ Nat.toDigits 10 n := by simpa using hc
  exact isEscaped_of_toDigit (isSome_toDigit (by decide) (by decide) hdigit)

theorem plain_displayV4 (bits : BitVec 32) : Plain (IpAddr.displayV4 bits).toList := by
  rw [IpAddr.toList_displayV4, plain_intercalate (by decide), forall_mem_map]
  exact fun n _ c hc => isEscaped_of_toDigit (isSome_toDigit (by decide) (by decide) hc)

theorem colon_mem_displayV6 (bits : BitVec 128) : ':' ∈ (IpAddr.displayV6 bits).toList := by
  rcases IpAddr.displayV6_cases bits with ⟨-, htext⟩ | ⟨front, back, htext, -, -⟩ | htext
  · have hcolon : ':' ∈ "::ffff:".toList := by decide
    rw [htext, String.toList_append]
    exact mem_append_left _ hcolon
  · have hcolon : ':' ∈ "::".toList := by decide
    rw [htext, String.toList_append, String.toList_append]
    exact mem_append_left _ (mem_append_right _ hcolon)
  · rw [htext, IpAddr.toList_fmtSubslice]
    simp [IpAddr.segments, List.intercalate]

/-- **An IPv6 address cannot be written without a colon**, an IPv4 address is. -/
theorem plain_display (address : IpAddr) : Plain address.display.toList ↔ address.isIpv4 = true := by
  cases address with
  | v4 bits => exact ⟨fun _ => rfl, fun _ => plain_displayV4 bits⟩
  | v6 bits => exact ⟨fun h => absurd (h ':' (colon_mem_displayV6 bits)) (by decide), fun h => (by cases h)⟩

theorem plain_formatPrefix (p : IpPrefix) : Plain (formatPrefix p) ↔ p.address.isIpv4 = true := by
  unfold formatPrefix
  rw [plain_append, plain_cons (by decide), plain_display]
  exact and_iff_left (plain_toString _)

theorem plain_formatAddresses (addresses : List IpPrefix) :
    Plain (formatAddresses addresses) ↔ ∀ p ∈ addresses, p.address.isIpv4 = true := by
  unfold formatAddresses
  rw [plain_intercalate (by decide), forall_mem_map]
  exact forall₂_congr fun p _ => plain_formatPrefix p

theorem plain_formatServers (servers : List IpAddr) (ipv4 : Bool) :
    Plain (formatServers servers ipv4) ↔ ∀ address ∈ servers, address.isIpv4 = ipv4 → ipv4 = true := by
  unfold formatServers
  rw [plain_intercalate (by decide), forall_mem_map]
  simp only [mem_filter, beq_iff_eq, and_imp, plain_display]
  exact forall₂_congr fun address _ => forall_congr' fun hfamily => by rw [hfamily]

theorem plain_formatHop {gateway : Option IpAddr} (h : ∀ address, gateway = some address → address.isIpv4 = true)
    (metric : Option UInt32) : Plain (formatHop true gateway metric) := by
  have hplaceholder : Plain " 0.0.0.0".toList := by decide
  unfold formatHop
  rw [plain_append]
  constructor
  · cases gateway with
    | some address => exact (plain_cons (by decide)).2 ((plain_display address).2 (h address rfl))
    | none =>
      cases metric with
      | some metric => exact hplaceholder
      | none => exact plain_nil
  · cases metric with
    | some metric => exact (plain_cons (by decide)).2 (plain_toString _)
    | none => exact plain_nil

theorem splitOnChar_eq_splitOn (s : Str) : splitOnChar '.' s = s.splitOn '.' := by
  induction s with
  | nil => rfl
  | cons x s ih =>
    unfold splitOnChar
    rw [ih]
    cases hlabels : s.splitOn '.' with
    | nil => exact absurd hlabels (splitOnP_ne_nil _ _)
    | cons label labels =>
      by_cases hx : x = '.'
      · rw [hx, splitOn_cons_self, hlabels]
        rfl
      · rw [splitOn_cons_of_ne hx, hlabels]
        exact if_neg hx

section
variable {desired : NetworkDesiredState} (h : desired.Valid)
include h

theorem plain_formatRoutes_true : Plain (formatRoutes desired.routes true) := by
  unfold formatRoutes
  rw [plain_intercalate (by decide), forall_mem_map]
  intro route hroute
  obtain ⟨hmem, hfamily⟩ := mem_filter.1 hroute
  have hipv4 : route.destination.address.isIpv4 = true := by simpa using hfamily
  unfold formatRoute
  rw [plain_append]
  exact ⟨(plain_formatPrefix _).2 hipv4,
    plain_formatHop (fun gateway hgateway => ((h.routes route hmem).2 gateway hgateway).trans hipv4) _⟩

theorem plain_searchList : Plain (searchList desired.dns.searchDomains) := by
  unfold searchList
  rw [plain_intercalate (by decide), forall_mem_map]
  intro domain hdomain
  have hvalid := all_eq_true.1 h.domains domain hdomain
  unfold validDomain at hvalid
  rw [Bool.and_eq_true, all_eq_true, splitOnChar_eq_splitOn] at hvalid
  have hjoin : ['.'].intercalate (domain.toList.splitOn '.') = domain.toList := intercalate_splitOn '.'
  rw [← hjoin, plain_intercalate (by decide)]
  intro label hlabel c hc
  have hok := hvalid.2 label hlabel
  unfold validLabel at hok
  rw [Bool.and_eq_true, all_eq_true] at hok
  exact isEscaped_of (P := fun c => (c.isAlphanum || c == '-') = true) (by decide) (by decide) (hok.2 c hc)

end

def OnlyIpv4 (desired : NetworkDesiredState) : Prop :=
  (∀ addresses, desired.ipv6 ≠ .static addresses) ∧ (∀ server ∈ desired.dns.servers, server.isIpv4 = true) ∧
    ∀ route ∈ desired.routes, route.destination.address.isIpv4 = true

theorem plain_ipv6Mode {desired : NetworkDesiredState} (h : desired.Valid) :
    Plain (ipv6Mode desired.ipv6).2 ↔ ∀ addresses, desired.ipv6 ≠ .static addresses := by
  cases hmode : desired.ipv6 with
  | automatic | disabled => exact ⟨fun _ _ heq => (by cases heq), fun _ => plain_nil⟩
  | static addresses =>
    refine ⟨fun hplain => ?_, fun hnone => absurd rfl (hnone addresses)⟩
    obtain ⟨p, hp⟩ := exists_mem_of_ne_nil _ (h.ipv6 addresses hmode).ne_nil
    have hfamily := ((h.ipv6 addresses hmode).all p hp).family
    rw [(plain_formatAddresses addresses).1 hplain p hp] at hfamily
    cases hfamily

theorem plain_formatRoutes_false (routes : List RouteConfiguration) :
    Plain (formatRoutes routes false) ↔ ∀ route ∈ routes, route.destination.address.isIpv4 = true := by
  unfold formatRoutes
  rw [plain_intercalate (by decide), forall_mem_map]
  constructor
  · intro hplain route hroute
    by_contra hipv6
    have hfilter : route ∈ routes.filter (fun route => route.destination.address.isIpv4 == false) :=
      mem_filter.2 ⟨hroute, by simpa using hipv6⟩
    exact hipv6 ((plain_formatPrefix _).1 (plain_append.1 (hplain route hfilter)).1)
  · intro hipv4 route hroute
    obtain ⟨hmem, hfamily⟩ := mem_filter.1 hroute
    rw [hipv4 route hmem] at hfamily
    cases hfamily

/-- **What is written for a valid state is plain** exactly if the state has no IPv6 address in it. -/
theorem plain_written_iff {desired : NetworkDesiredState} (h : desired.Valid) :
    (∀ p ∈ writtenProperties desired, Plain p.2) ↔ OnlyIpv4 desired := by
  have hmanual : Plain "manual".toList := by decide
  have hmode4 : Plain (ipv4Mode desired.ipv4).1 ∧ Plain (ipv4Mode desired.ipv4).2 := by
    cases hmode : desired.ipv4 with
    | dhcp | disabled => exact ⟨by decide, plain_nil⟩
    | static addresses =>
      exact ⟨hmanual, (plain_formatAddresses addresses).2 fun p hp => ((h.ipv4 addresses hmode).all p hp).family⟩
  have hmode6 : Plain (ipv6Mode desired.ipv6).1 := by
    cases desired.ipv6 with
    | automatic | disabled => exact (by decide)
    | static addresses => exact hmanual
  have hservers4 : Plain (formatServers desired.dns.servers true) := (plain_formatServers _ _).2 fun _ _ _ => rfl
  have hservers6 : Plain (formatServers desired.dns.servers false) ↔
    ∀ server ∈ desired.dns.servers, server.isIpv4 = true := by
    rw [plain_formatServers]
    exact forall₂_congr fun server _ => by cases server.isIpv4 <;> simp
  have hyes : ∀ ignore, Plain (yesNo ignore) := by decide
  unfold writtenProperties OnlyIpv4
  rw [forall_mem_append, ← plain_ipv6Mode h, ← hservers6, ← plain_formatRoutes_false]
  simp only [forall_mem_cons, hmode4, hmode6, hservers4, plain_searchList h, plain_nil, hyes,
    plain_formatRoutes_true h, true_and]
  constructor
  · rintro ⟨⟨haddresses, hservers, hroutes, -⟩, -⟩
    exact ⟨haddresses, hservers, hroutes⟩
  · rintro ⟨haddresses, hservers, hroutes⟩
    refine ⟨⟨haddresses, hservers, hroutes, by simp⟩, ?_⟩
    cases desired.mtu with
    | none => simp
    | some mtu => simpa using plain_toString mtu.toNat

/-! ## Verify after apply, restore after snapshot -/

def IsUuid (uuid : Str) : Prop := uuid.length = 36 ∧ ∀ c ∈ uuid, isAsciiHexdigit c = true ∨ c = '-'

theorem IsUuid.chars {uuid : Str} (h : IsUuid uuid) : Plain uuid ∧ ∀ c ∈ uuid, isWhitespace c = false := by
  have hrange : ∀ c ∈ uuid, 45 ≤ c.toNat ∧ c.toNat ≤ 102 ∧ c.toNat ≠ 58 ∧ c.toNat ≠ 92 := by
    intro c hc
    rcases h.2 c hc with hhex | rfl
    · unfold isAsciiHexdigit at hhex
      simp only [Bool.or_eq_true, Bool.and_eq_true, decide_eq_true_eq, Char.le_def, UInt32.le_iff_toNat_le] at hhex
      have hchars : '0'.toNat = 48 ∧ '9'.toNat = 57 ∧ 'a'.toNat = 97 ∧ 'f'.toNat = 102 ∧ 'A'.toNat = 65 ∧
        'F'.toNat = 70 := by decide
      unfold Char.toNat at hchars ⊢
      omega
    · decide
  constructor
  · exact fun c hc => isEscaped_of (P := fun c => c.toNat ≠ 58 ∧ c.toNat ≠ 92) (by decide) (by decide) (hrange c hc).2.2
  · intro c hc
    have hc' := hrange c hc
    unfold isWhitespace
    simp only [Bool.or_eq_false_iff, Bool.and_eq_false_iff, decide_eq_false_iff_not, beq_eq_false_iff_ne, ne_eq]
    omega

section
variable {w : World} {interfaceId uuid : Str} {profile : Profile}

/-- An Ethernet device whose active connection is a profile of `nmcli`, and nothing that fails. -/
structure Connected (w : World) (interfaceId uuid : Str) (profile : Profile) : Prop where
  faults : w.faults = []
  device : w.devices interfaceId = some ⟨"ethernet".toList, uuid⟩
  isUuid : IsUuid uuid
  profile_eq : w.profiles uuid = some profile

section
variable (h : Connected w interfaceId uuid profile)
include h

theorem Connected.ready : Ready terse w interfaceId uuid ⟨"ethernet".toList, uuid⟩ profile := by
  have hkind : trim (terse "ethernet".toList) = "ethernet".toList := by decide
  obtain ⟨hplain, hspace⟩ := h.isUuid.chars
  refine ⟨h.device, hkind, (trim_terse_eq_iff uuid).2 ⟨hplain, trim_of_all hspace⟩, ?_, h.profile_eq⟩
  rintro (hempty | rfl | hany)
  · have hlength := h.isUuid.1
    rw [isEmpty_iff.1 hempty] at hlength
    cases hlength
  · cases h.isUuid.1
  · obtain ⟨c, hc, hwhite⟩ := any_eq_true.1 hany
    rw [hspace c hc] at hwhite
    cases hwhite

/-- After an apply the device is still connected, and its profile holds the written values. -/
theorem apply_connected {desired : NetworkDesiredState} (hvalid : desired.validate = .ok ()) :
    (apply terse interfaceId desired w).1 = .ok () ∧ (apply terse interfaceId desired w).2.snapshots = w.snapshots ∧
      Connected (apply terse interfaceId desired w).2 interfaceId uuid
        (store profile (buildNetworkManagerProperties desired).toList) := by
  have hwritten : ∀ properties, (w.write uuid properties).profiles uuid = some (store profile properties) :=
    fun properties => by simp [World.write, h.profile_eq]
  have happly : apply terse interfaceId desired w =
      activate terse uuid interfaceId (w.write uuid (buildNetworkManagerProperties desired).toList) := by
    unfold apply
    rw [hvalid]
    show ((ensureEthernet terse interfaceId >>= _) w) = _
    rw [bind_of_ok (ensureEthernet_eq h.faults h.ready), bind_of_ok (connectionUuid_eq h.faults h.ready),
      bind_of_ok (modify_eq h.faults h.profile_eq _)]
  rw [happly, activate_eq (w := w.write uuid _) h.faults (hwritten _) h.device]
  exact ⟨rfl, rfl, h.faults, Function.update_self _ _ _, h.isUuid, hwritten _⟩

/-- **A verification passes** exactly if every value it wrote is plain. -/
theorem verify_iff {desired : NetworkDesiredState}
    (hstored : ∀ p ∈ (buildNetworkManagerProperties desired).toList, profile p.1 = p.2) :
    (verify terse interfaceId desired w).1 = .ok () ↔ ∀ p ∈ writtenProperties desired, Plain p.2 := by
  have hone : ∀ p ∈ (buildNetworkManagerProperties desired).toList,
      (verifyProperty terse uuid p w).2 = w ∧ ((verifyProperty terse uuid p w).1 = .ok () ↔ Plain p.2) := by
    intro p hp
    unfold verifyProperty
    rw [bind_of_ok (readProperty_eq h.faults h.profile_eq p.1), hstored p hp, ← normalizeProperty_terse_iff p.2]
    by_cases hsame : normalizeProperty (trim (terse p.2)) = normalizeProperty p.2
    · rw [if_neg (not_not.2 hsame)]
      exact ⟨rfl, fun _ => hsame, fun _ => rfl⟩
    · rw [if_pos hsame]
      exact ⟨rfl, fun hok => (by cases hok), fun heq => absurd heq hsame⟩
  have hmem : ∀ p, p ∈ (buildNetworkManagerProperties desired).toList ↔ p ∈ writtenProperties desired :=
    fun p => Std.TreeMap.mem_toList_iff_getElem?_eq_some.trans (getElem?_build desired p.1 p.2)
  unfold verify
  rw [bind_of_ok (connectionUuid_eq h.faults h.ready), forEach_ok_iff fun p hp => (hone p hp).1]
  constructor
  · exact fun hall p hp => (hone p ((hmem p).2 hp)).2.1 (hall p ((hmem p).2 hp))
  · exact fun hall p hp => (hone p hp).2.2 (hall p ((hmem p).1 hp))

end

/-- **Text fidelity.**  An apply that stored what it wrote is verified exactly if the desired state has no IPv6 address,
server or route; and a restore brings back the values of the snapshot exactly if none of them holds a colon or backslash
or has white space around it. -/
theorem text_fidelity_iff (h : Connected w interfaceId uuid profile) {desired : NetworkDesiredState}
    (hvalid : desired.validate = .ok ()) (digest : Bytes 32) :
    ((apply terse interfaceId desired w).1 = .ok () ∧
      ((verify terse interfaceId desired (apply terse interfaceId desired w).2).1 = .ok () ↔ OnlyIpv4 desired)) ∧
    ∃ s taken, snapshot terse digest interfaceId w = (.ok (hexString digest.val, s), taken) ∧
      (restore terse (hexString digest.val) (apply terse interfaceId desired taken).2).1 = .ok () ∧
      ((restore terse (hexString digest.val) (apply terse interfaceId desired taken).2).2.profiles uuid = some profile ↔
        ∀ property ∈ profileProperties, Plain (profile property) ∧ trim (profile property) = profile property) := by
  constructor
  · obtain ⟨hok, -, hconnected⟩ := apply_connected h hvalid
    refine ⟨hok, ?_⟩
    rw [verify_iff hconnected, plain_written_iff (NetworkDesiredState.valid_of_validate hvalid)]
    intro p hp
    rw [store_toList, Std.TreeMap.mem_toList_iff_getElem?_eq_some.1 hp]
    rfl
  · obtain ⟨s, hsnapshot, huuid⟩ := snapshot_ok h.faults h.ready digest
    obtain ⟨-, ⟨profile₀, hrecords⟩, -⟩ := wp_ok (wp_snapshot digest interfaceId) hsnapshot
    have hprofile := hrecords.profile_eq
    rw [huuid, h.profile_eq] at hprofile
    obtain rfl : profile = profile₀ := Option.some.inj hprofile
    have htaken : Connected (w.record digest s) interfaceId uuid profile := ⟨h.faults, h.device, h.isUuid, h.profile_eq⟩
    obtain ⟨-, hsnapshots, hconnected⟩ := apply_connected htaken hvalid
    have hheld : (apply terse interfaceId desired (w.record digest s)).2.snapshots (pathOf digest) = some s := by
      rw [hsnapshots]
      exact Function.update_self _ _ _
    have hstored := hconnected.profile_eq
    rw [← huuid] at hstored
    have hinterface : s.interfaceId = interfaceId := hrecords.interface.1
    have hok :
    (restore terse (hexString digest.val) (apply terse interfaceId desired (w.record digest s)).2).1 = .ok () :=
      restore_ok hconnected.faults hheld hrecords.version hstored (by rw [hinterface]; exact hconnected.device)
    refine ⟨s, _, hsnapshot, hok, ?_⟩
    generalize (apply terse interfaceId desired (w.record digest s)).2 = now at hheld hstored hok
    have hspec : wp (restore terse (hexString digest.val)) _ _ now := wp_restore hheld
    rcases wp_cases hspec with ⟨_, w', hrun, profile₂, hprofile₂, hrestored⟩ | ⟨e, w', hrun, -⟩
    · rw [hrun, ← huuid, hrestored, Option.some.injEq]
      obtain rfl := Option.mem_unique hstored hprofile₂
      have hvalue : ∀ property, store (store profile (buildNetworkManagerProperties desired).toList)
        s.properties.toList property =
          if property ∈ profileProperties then trim (terse (profile property)) else profile property := by
        intro property
        rw [store_toList, hrecords.properties]
        by_cases hp : property ∈ profileProperties
        · rw [if_pos hp, if_pos hp]
          rfl
        · rw [if_neg hp, if_neg hp]
          refine store_of_not_mem (fun p hmem heq => hp ?_) profile
          rw [← heq]
          exact mem_build (mem_of_mem_toList hmem)
      constructor
      · intro hsame property hp
        have hone := hvalue property
        rw [hsame, if_pos hp] at hone
        exact (trim_terse_eq_iff _).1 hone.symm
      · intro hall
        funext property
        rw [hvalue]
        by_cases hp : property ∈ profileProperties
        · rw [if_pos hp]
          exact (trim_terse_eq_iff _).2 (hall property hp)
        · rw [if_neg hp]
    · rw [hrun] at hok
      cases hok

end

/-- A profile with an address, and the IPv6 server. -/
def connectedProfile (server : Str) (property : String) : Str :=
  if property = "ipv4.addresses" then "192.0.2.7/24".toList else if property = "ipv6.dns" then server else []

def connectedWorld (server : Str) : World where
  devices := fun interfaceId => if interfaceId = ['e'] then some ⟨"ethernet".toList, List.replicate 36 '0'⟩ else none
  profiles := fun uuid => if uuid = List.replicate 36 '0' then some (connectedProfile server) else none
  snapshots := fun _ => none
  faults := []

theorem connectedWorld_connected (server : Str) :
    Connected (connectedWorld server) ['e'] (List.replicate 36 '0') (connectedProfile server) :=
  ⟨rfl, rfl, ⟨by decide, fun c hc => by rw [eq_of_mem_replicate hc]; decide⟩, rfl⟩

def staticIpv4 : NetworkDesiredState where
  ipv4 := .static [⟨.v4 0xc0000208#32, 24⟩]
  ipv6 := .disabled
  dns := ⟨false, [.v4 0xc0000201#32], []⟩
  routes := [⟨⟨.v4 0x0a000000#32, 8⟩, some (.v4 0xc0000201#32), none⟩]
  mtu := some 1500

theorem text_fidelity_sample :
    (verify terse ['e'] staticIpv4 (apply terse ['e'] staticIpv4 (connectedWorld [])).2).1 = .ok () ∧
      ∃ s taken, snapshot terse (Bytes.replicate 32 0) ['e'] (connectedWorld []) =
          (.ok (hexString (Bytes.replicate 32 0).val, s), taken) ∧
        (restore terse (hexString (Bytes.replicate 32 0).val) (apply terse ['e'] staticIpv4 taken).2).2.profiles
          (List.replicate 36 '0') = some (connectedProfile []) := by
  have hvalid : staticIpv4.validate = .ok () := by decide
  obtain ⟨⟨-, hverify⟩, s, taken, hsnapshot, -, hrestore⟩ :=
    text_fidelity_iff (connectedWorld_connected []) hvalid (Bytes.replicate 32 0)
  exact ⟨hverify.2 ⟨fun _ h => (by cases h), by decide, by decide⟩, s, taken, hsnapshot, hrestore.2 (by decide)⟩

def ipv6Dns : NetworkDesiredState := { NetworkDesiredState.auto with dns := ⟨false, [.v6 1#128], []⟩ }

/-- The server is stored and not found again; and the text of a profile that had it comes back with backslashes. -/
theorem colons_are_escaped : ipv6Dns.validate = .ok () ∧ ("ipv6.dns", "::1".toList) ∈ writtenProperties ipv6Dns ∧
    (verify terse ['e'] ipv6Dns (apply terse ['e'] ipv6Dns (connectedWorld [])).2).1 ≠ .ok () ∧
    ∃ s taken, snapshot terse (Bytes.replicate 32 0) ['e'] (connectedWorld "::1".toList) =
        (.ok (hexString (Bytes.replicate 32 0).val, s), taken) ∧
      s.properties["ipv6.dns"]? = some "\\:\\:1".toList := by
  have hvalid : ipv6Dns.validate = .ok () := by decide
  have hmem : ("ipv6.dns", "::1".toList) ∈ writtenProperties ipv6Dns := by decide
  refine ⟨hvalid, hmem, fun hok => ?_, ?_⟩
  · obtain ⟨-, -, hconnected⟩ := apply_connected (connectedWorld_connected []) hvalid
    have hplain := (verify_iff hconnected fun p hp => by
      rw [store_toList, Std.TreeMap.mem_toList_iff_getElem?_eq_some.1 hp]
      rfl).1 hok _ hmem
    exact absurd hplain (by decide)
  · have hconnected := connectedWorld_connected "::1".toList
    obtain ⟨s, hsnapshot, huuid⟩ := snapshot_ok hconnected.faults hconnected.ready (Bytes.replicate 32 0)
    obtain ⟨-, ⟨profile, hrecords⟩, -⟩ := wp_ok (wp_snapshot (Bytes.replicate 32 0) ['e']) hsnapshot
    refine ⟨s, _, hsnapshot, ?_⟩
    have hprofile := hrecords.profile_eq
    rw [huuid] at hprofile
    rw [hrecords.properties, ← Option.some.inj hprofile]
    decide

end NetworkManager
end NetTool
