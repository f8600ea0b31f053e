import Tierd.Network.Files

namespace Tierd.Network

open Tierd.Data Ini List

def InterfaceConfig.Accepted (iface : InterfaceConfig) : Prop :=
  validateInterfaceName iface.name = .ok () ∧ validateIPConfig iface.toIPSettings = .ok ()

def dhcpItems : (dhcp4 dhcp6 : Bool) → List Item
  | true, true => [.directive "DHCP" "yes"]
  | true, false => [.directive "DHCP" "ipv4"]
  | false, true => [.directive "DHCP" "ipv6"]
  | false, false => []

def gatewayItems (gateway : Text) : List Item :=
  if gateway ≠ [] then [.directive "Gateway" gateway] else []

def slaacItem (slaac : Bool) : Item :=
  .directive "IPv6AcceptRA" (if slaac then "true" else "false")

def IPSettings.networkItems (ip : IPSettings) : List Item :=
  dhcpItems ip.dhcp4 ip.dhcp6 ++ ip.ipv4Addrs.map (.directive "Address") ++ gatewayItems ip.gateway4 ++
  ip.ipv6Addrs.map (.directive "Address") ++ gatewayItems ip.gateway6 ++ [slaacItem ip.slaac] ++
  ip.dns.map (.directive "DNS")

def IPSettings.linkItems (ip : IPSettings) : List Item :=
  if 0 < ip.mtu then [.directive "MTUBytes" (formatInt ip.mtu)] else []

def clientItems (dhcp4 : Bool) : List Item :=
  if dhcp4 then [.heading "DHCPv4", .directive "ClientIdentifier" "mac"] else []

def InterfaceConfig.items (iface : InterfaceConfig) : List Item :=
  [.heading "Match", .directive "Name" iface.name, .heading "Network"] ++ iface.networkItems ++
  [.heading "Link"] ++ iface.linkItems ++ clientItems iface.dhcp4

theorem isSpace_of_isLetter {c : Char} (letter : isLetter c = true) : Text.isSpace c = false := by
  simp only [isLetter, Bool.or_eq_true, Bool.and_eq_true, decide_eq_true_eq] at letter
  rcases letter with lower | upper
  · have range : 97 ≤ c.toNat ∧ c.toNat ≤ 122 := lower
    unfold Text.isSpace
    generalize c.toNat = code at range
    simp
    omega
  · have range : 65 ≤ c.toNat ∧ c.toNat ≤ 90 := upper
    unfold Text.isSpace
    generalize c.toNat = code at range
    simp
    omega

theorem interfaceName_solid {name : Text} (valid : matchesInterfaceName name = true) :
    ∀ c ∈ name, Text.isSpace c = false := by
  cases name with
  | nil => cases valid
  | cons first rest =>
    simp only [matchesInterfaceName, Bool.and_eq_true, all_eq_true, Bool.or_eq_true, beq_iff_eq] at valid
    obtain ⟨⟨letter, _⟩, others⟩ := valid
    refine forall_mem_cons.mpr ⟨isSpace_of_isLetter letter, fun c listed => ?_⟩
    rcases others c listed with (((letter | digit) | rfl) | rfl) | rfl
    · exact isSpace_of_isLetter letter
    · exact Text.isSpace_of_isDigit digit
    · decide
    · decide
    · decide

def isIPv4Char (c : Char) : Prop := Text.isSpace c = false ∧ c ≠ ':'

theorem isIPv4Char_of_isNumber {most : Nat} {part : Text} (number : isNumber most part = true) :
    ∀ c ∈ part, isIPv4Char c := by
  intro c listed
  simp only [isNumber, Bool.and_eq_true, all_eq_true] at number
  have digit := number.2 c listed
  exact ⟨Text.isSpace_of_isDigit digit, fun colon => absurd (colon ▸ digit) (by decide)⟩

theorem matchesIPv4_chars {addr : Text} (valid : matchesIPv4 addr = true) : ∀ c ∈ addr, isIPv4Char c := by
  simp only [matchesIPv4, Bool.and_eq_true, all_eq_true] at valid
  exact Addresses.forall_of_splitOn '.' isIPv4Char ⟨by decide, by decide⟩ fun part listed =>
    isIPv4Char_of_isNumber (valid.2 part listed)

theorem matchesIPv4CIDR_chars {addr : Text} (valid : matchesIPv4CIDR addr = true) : ∀ c ∈ addr, isIPv4Char c := by
  unfold matchesIPv4CIDR at valid
  split at valid
  case h_2 => cases valid
  case h_1 address bits parts =>
    simp only [Bool.and_eq_true] at valid
    refine Addresses.forall_of_splitOn '/' isIPv4Char ⟨by decide, by decide⟩ fun part listed => ?_
    rw [parts] at listed
    simp only [mem_cons, not_mem_nil, or_false] at listed
    rcases listed with rfl | rfl
    · exact matchesIPv4_chars valid.1
    · exact isIPv4Char_of_isNumber valid.2

theorem plain_of_ipv4Chars {value : Text} (chars : ∀ c ∈ value, isIPv4Char c) : Plain value :=
  plain_of_solid fun c listed => (chars c listed).1

theorem no_colon_of_ipv4Chars {value : Text} (chars : ∀ c ∈ value, isIPv4Char c) : ':' ∉ value :=
  fun listed => (chars ':' listed).2 rfl

structure IPSettings.Valid (ip : IPSettings) : Prop where
  ipv4 : ∀ addr ∈ ip.ipv4Addrs, ∀ c ∈ addr, isIPv4Char c
  ipv6 : ∀ addr ∈ ip.ipv6Addrs, ':' ∈ addr
  gateway4 : ∀ c ∈ ip.gateway4, isIPv4Char c
  gateway6 : ip.gateway6 = [] ∨ ':' ∈ ip.gateway6
  mtu : ip.mtu = 0 ∨ 576 ≤ ip.mtu ∧ ip.mtu ≤ 9000
  dns : ∀ server ∈ ip.dns, Plain server

theorem IPSettings.valid_of_accepted {ip : IPSettings} (accepted : validateIPConfig ip = .ok ()) : ip.Valid := by
  simp only [validateIPConfig, bind_eq_ok, checkAll_eq_ok, checkWhen_eq_ok, ensure_eq_ok, validateIPv4CIDR,
    validateIPv6CIDR, validateIPv4, validateMTU, validateDNSServer, exists_const] at accepted
  obtain ⟨ipv4, ipv6, gateway4, gateway6, mtu, dns⟩ := accepted
  exact {
    ipv4 := fun addr listed => matchesIPv4CIDR_chars (ipv4 addr listed)
    ipv6 := fun addr listed => (ipv6 addr listed).1
    gateway4 := by
      by_cases empty : ip.gateway4 = []
      · simp [empty]
      · exact matchesIPv4_chars (gateway4 empty)
    gateway6 := gateway6
    mtu := by
      by_cases unset : ip.mtu = 0
      · exact .inl unset
      · exact .inr (mtu unset)
    dns := fun server listed => plain_of_solid (Addresses.parseIP_solid (dns server listed)) }

/-- The IPv6 values fit on a line. -/
def IPSettings.PlainIPv6 (ip : IPSettings) : Prop := (∀ addr ∈ ip.ipv6Addrs, Plain addr) ∧ Plain ip.gateway6
deriving Decidable

theorem reads_gateway {gateway : Text} (plain : Plain gateway) :
    Reads (gatewayLines gateway) (gatewayItems gateway) := by
  unfold gatewayLines gatewayItems
  by_cases empty : gateway = []
  · rw [if_neg (not_not.mpr empty), if_neg (not_not.mpr empty)]
    exact ⟨by simp, rfl⟩
  · rw [if_pos empty, if_pos empty]
    exact reads_directive (by decide) plain

theorem IPSettings.reads_networkLines {ip : IPSettings} (valid : ip.Valid) (plain : ip.PlainIPv6) :
    Reads ip.networkLines ip.networkItems := by
  have dhcp : Reads (dhcpLines ip.dhcp4 ip.dhcp6) (dhcpItems ip.dhcp4 ip.dhcp6) := by
    cases ip.dhcp4 <;> cases ip.dhcp6 <;> decide
  have slaac : Reads [if ip.slaac then "IPv6AcceptRA=true" else "IPv6AcceptRA=false"]
      [slaacItem ip.slaac] := by
    cases ip.slaac <;> decide
  have address : IsKey "Address" := by decide
  have server : IsKey "DNS" := by decide
  have ipv4 := reads_directives address fun addr listed => plain_of_ipv4Chars (valid.ipv4 addr listed)
  exact (((((dhcp.append ipv4).append (reads_gateway (plain_of_ipv4Chars valid.gateway4))).append
    (reads_directives address plain.1)).append (reads_gateway plain.2)).append slaac).append
    (reads_directives server valid.dns)

theorem solid_formatInt (n : Int) : ∀ c ∈ formatInt n, Text.isSpace c = false := by
  intro c listed
  cases n with
  | ofNat n => exact Text.isSpace_of_isDigit (Nat.isDigit_of_mem_toDigits (by decide) (by decide) listed)
  | negSucc n =>
    rcases mem_cons.mp listed with rfl | listed
    · decide
    · exact Text.isSpace_of_isDigit (Nat.isDigit_of_mem_toDigits (by decide) (by decide) listed)

theorem plain_formatInt (n : Int) : Plain (formatInt n) := plain_of_solid (solid_formatInt n)

theorem IPSettings.reads_linkLines (ip : IPSettings) : Reads ip.linkLines ip.linkItems := by
  unfold IPSettings.linkLines IPSettings.linkItems
  by_cases set : 0 < ip.mtu
  · rw [if_pos set, if_pos set]
    exact reads_directive (by decide) (plain_formatInt ip.mtu)
  · rw [if_neg set, if_neg set]
    exact ⟨by simp, rfl⟩

theorem items_generateNetworkFile {iface : InterfaceConfig} (name : Plain iface.name) (valid : iface.Valid)
    (plain : iface.PlainIPv6) : Ini.items (generateNetworkFile iface) = iface.items := by
  have head : Reads [generatedByTierd, "[Match]"] [.heading "Match"] := by decide
  have named : Reads [directive "Name" iface.name] [.directive "Name" iface.name] :=
    reads_directive (by decide) name
  have network : Reads [[], "[Network]"] [.heading "Network"] := by decide
  have link : Reads [[], "[Link]"] [.heading "Link"] := by decide
  have client : Reads (if iface.dhcp4 then [[], "[DHCPv4]", "ClientIdentifier=mac"] else [])
      (clientItems iface.dhcp4) := by
    cases iface.dhcp4 <;> decide
  exact (((((head.append (named.append network)).append (iface.reads_networkLines valid plain)).append link).append
    iface.reads_linkLines).append client).items

section Parsing

variable (settings : IPSettings)

theorem parseItem_network (key value : Text) :
    parseItem (settings, "Network") (.directive key value) =
      (applyNetworkSetting settings key value, "Network".toList) := by
  unfold parseItem
  exact if_pos rfl

theorem applyNetworkSetting_gateway (value : Text) :
    applyNetworkSetting settings "Gateway" value =
      if ':' ∈ value then { settings with gateway6 := value } else { settings with gateway4 := value } := by
  rw [applyNetworkSetting, if_neg (by decide), if_pos rfl]

theorem foldl_directives {key : Text} (grow : List Text → IPSettings) {values : List Text}
    (each : ∀ read, ∀ value ∈ values, applyNetworkSetting (grow read) key value = grow (read ++ [value]))
    (read : List Text) :
    (values.map (Item.directive key)).foldl parseItem (grow read, "Network") =
      (grow (read ++ values), "Network".toList) := by
  induction values generalizing read with
  | nil => simp
  | cons value rest ih =>
    rw [map_cons, foldl_cons, parseItem_network, each read value mem_cons_self,
      ih fun read other listed => each read other (mem_cons_of_mem value listed)]
    simp

theorem foldl_ipv4Addrs {addrs : List Text} (ipv4 : ∀ addr ∈ addrs, ':' ∉ addr) :
    (addrs.map (Item.directive "Address")).foldl parseItem (settings, "Network") =
      ({ settings with ipv4Addrs := settings.ipv4Addrs ++ addrs }, "Network".toList) := by
  refine foldl_directives (fun read => { settings with ipv4Addrs := read }) (fun read addr listed => ?_) _
  rw [applyNetworkSetting, if_pos rfl, if_neg (ipv4 addr listed)]

theorem foldl_ipv6Addrs {addrs : List Text} (ipv6 : ∀ addr ∈ addrs, ':' ∈ addr) :
    (addrs.map (Item.directive "Address")).foldl parseItem (settings, "Network") =
      ({ settings with ipv6Addrs := settings.ipv6Addrs ++ addrs }, "Network".toList) := by
  refine foldl_directives (fun read => { settings with ipv6Addrs := read }) (fun read addr listed => ?_) _
  rw [applyNetworkSetting, if_pos rfl, if_pos (ipv6 addr listed)]

theorem foldl_dns (servers : List Text) :
    (servers.map (Item.directive "DNS")).foldl parseItem (settings, "Network") =
      ({ settings with dns := settings.dns ++ servers }, "Network".toList) := by
  refine foldl_directives (fun read => { settings with dns := read }) (fun read server _ => ?_) _
  rw [applyNetworkSetting, if_neg (by decide), if_neg (by decide), if_neg (by decide), if_neg (by decide), if_pos rfl]

theorem foldl_then {first second : List Item} {start middle finish : IPSettings × Text}
    (left : first.foldl parseItem start = middle) (right : second.foldl parseItem middle = finish) :
    (first ++ second).foldl parseItem start = finish := by
  rw [foldl_append, left, right]

theorem foldl_dhcp (dhcp4 dhcp6 : Bool) :
    (dhcpItems dhcp4 dhcp6).foldl parseItem ({}, "Network") =
      ({ dhcp4 := dhcp4, dhcp6 := dhcp6 }, "Network".toList) := by
  cases dhcp4 <;> cases dhcp6 <;> decide

theorem foldl_gateway4 {gateway : Text} (unset : settings.gateway4 = []) (ipv4 : ':' ∉ gateway) :
    (gatewayItems gateway).foldl parseItem (settings, "Network") =
      ({ settings with gateway4 := gateway }, "Network".toList) := by
  by_cases empty : gateway = []
  · simp [gatewayItems, empty, ← unset]
  · rw [gatewayItems, if_pos empty, foldl_cons, foldl_nil, parseItem_network, applyNetworkSetting_gateway,
      if_neg ipv4]

theorem foldl_gateway6 {gateway : Text} (unset : settings.gateway6 = []) (ipv6 : gateway = [] ∨ ':' ∈ gateway) :
    (gatewayItems gateway).foldl parseItem (settings, "Network") =
      ({ settings with gateway6 := gateway }, "Network".toList) := by
  by_cases empty : gateway = []
  · simp [gatewayItems, empty, ← unset]
  · rw [gatewayItems, if_pos empty, foldl_cons, foldl_nil, parseItem_network, applyNetworkSetting_gateway,
      if_pos (ipv6.resolve_left empty)]

theorem foldl_slaac (slaac : Bool) :
    [slaacItem slaac].foldl parseItem (settings, "Network") =
      ({ settings with slaac := slaac }, "Network".toList) := by
  rw [foldl_cons, foldl_nil, slaacItem, parseItem_network, applyNetworkSetting, if_neg (by decide),
    if_neg (by decide), if_neg (by decide), if_pos rfl]
  cases slaac <;> rfl

end Parsing

theorem atoi_formatInt {n : Int} (positive : 0 < n) (small : n < 2 ^ 63) : atoi (formatInt n) = some n := by
  obtain ⟨m, rfl⟩ := Int.eq_ofNat_of_zero_le (Int.le_of_lt positive)
  have digits : ∀ c ∈ Nat.toDigits 10 m, c.isDigit = true := fun c =>
    Nat.isDigit_of_mem_toDigits (by decide) (by decide)
  have value : Nat.ofDigitChars 10 (Nat.toDigits 10 m) 0 = m := Nat.ofDigitChars_toDigits (by decide) (by decide)
  have spelled : formatInt (m : Int) = Nat.toDigits 10 m := rfl
  rw [spelled]
  generalize Nat.toDigits 10 m = text at digits value
  have nonempty : text ≠ [] := by
    rintro rfl
    have zero : (0 : Nat) = m := value
    omega
  have unsigned : cutSign text = (false, text) := by
    unfold cutSign
    split
    · exact absurd (digits '-' mem_cons_self) (by decide)
    · exact absurd (digits '+' mem_cons_self) (by decide)
    · rfl
  have all : text.all Char.isDigit = true := all_eq_true.mpr digits
  have allowed : ¬ (text = [] ∨ text.all Char.isDigit = false) := by simp [nonempty, all]
  simp only [atoi, unsigned, if_neg allowed, Bool.false_eq_true, if_false, value]
  rw [if_pos ⟨by omega, small⟩]

theorem foldl_linkItems {settings ip : IPSettings} (unset : settings.mtu = 0)
    (valid : ip.mtu = 0 ∨ 576 ≤ ip.mtu ∧ ip.mtu ≤ 9000) :
    ip.linkItems.foldl parseItem (settings, "Link".toList) = ({ settings with mtu := ip.mtu }, "Link".toList) := by
  unfold IPSettings.linkItems
  rcases valid with zero | range
  · rw [zero, if_neg (by decide), foldl_nil, ← unset]
  · have number : atoi (formatInt ip.mtu) = some ip.mtu := atoi_formatInt (by omega) (by omega)
    have elsewhere : "Link".toList ≠ "Network".toList := by decide
    rw [if_pos (by omega), foldl_cons, foldl_nil, parseItem, if_neg elsewhere, if_pos ⟨rfl, rfl⟩, number]

theorem parse_items {iface : InterfaceConfig} (valid : iface.Valid) :
    (iface.items.foldl parseItem ({}, [])).1 = iface.toIPSettings := by
  have head : List.foldl parseItem ({}, [])
      [.heading "Match", .directive "Name" iface.name, .heading "Network"] =
      ({}, "Network".toList) := rfl
  have link (settings : IPSettings) : List.foldl parseItem (settings, "Network".toList) [.heading "Link".toList] =
      (settings, "Link".toList) := rfl
  have client (settings : IPSettings) :
      ((clientItems iface.dhcp4).foldl parseItem (settings, "Link".toList)).1 = settings := by
    cases iface.dhcp4 <;> rfl
  have addresses := foldl_then (foldl_dhcp iface.dhcp4 iface.dhcp6)
    (foldl_ipv4Addrs _ fun addr listed => no_colon_of_ipv4Chars (valid.ipv4 addr listed))
  have network := foldl_then (foldl_then (foldl_then (foldl_then (foldl_then addresses
    (foldl_gateway4 _ rfl (no_colon_of_ipv4Chars valid.gateway4))) (foldl_ipv6Addrs _ valid.ipv6))
    (foldl_gateway6 _ rfl valid.gateway6)) (foldl_slaac _ iface.slaac)) (foldl_dns _ iface.dns)
  have whole := foldl_then (foldl_then (foldl_then head network) (link _)) (foldl_linkItems rfl valid.mtu)
  rw [InterfaceConfig.items, foldl_append]
  exact (congrArg (fun state => (List.foldl parseItem state _).1) whole).trans (client _)

theorem parse_generateNetworkFile {iface : InterfaceConfig} (name : Plain iface.name) (valid : iface.Valid)
    (plain : iface.PlainIPv6) : parseNetworkFileSettings (generateNetworkFile iface) = iface.toIPSettings := by
  rw [parseNetworkFileSettings, items_generateNetworkFile name valid plain, parse_items valid]

theorem InterfaceConfig.mem_items_of_network {iface : InterfaceConfig} {item : Item}
    (listed : item ∈ iface.networkItems) :
    item ∈ iface.items := by
  simp only [InterfaceConfig.items, mem_append]
  exact .inl (.inl (.inl (.inr listed)))

/-- The file of an accepted configuration is read back as the configuration, and has no
section and no directive but those the configuration asks for, exactly when the IPv6
addresses and the IPv6 gateway have no line end in them and no space around them. -/
theorem network_file_round_trips_iff {iface : InterfaceConfig} (accepted : iface.Accepted) :
    (parseNetworkFileSettings (generateNetworkFile iface) = iface.toIPSettings ∧
      Ini.items (generateNetworkFile iface) = iface.items) ↔ iface.PlainIPv6 := by
  obtain ⟨name, addresses⟩ := accepted
  have valid := IPSettings.valid_of_accepted addresses
  have named : Plain iface.name := plain_of_solid (interfaceName_solid (ensure_eq_ok.mp name))
  constructor
  · rintro ⟨_, same⟩
    have found : ∀ key value, .directive key value ∈ iface.items → Plain value := fun key value listed =>
      plain_of_mem_items (same.symm ▸ listed)
    refine ⟨fun addr listed => found "Address" addr (InterfaceConfig.mem_items_of_network ?_), ?_⟩
    · simp only [IPSettings.networkItems, mem_append, mem_map]
      exact .inl (.inl (.inl (.inr ⟨addr, listed, rfl⟩)))
    · by_cases empty : iface.gateway6 = []
      · rw [empty]
        decide
      · refine found "Gateway" iface.gateway6 (InterfaceConfig.mem_items_of_network ?_)
        simp only [IPSettings.networkItems, mem_append, gatewayItems, if_pos empty]
        exact .inl (.inl (.inr mem_cons_self))
  · intro plain
    exact ⟨parse_generateNetworkFile named valid plain, items_generateNetworkFile named valid plain⟩

def staticEth0 : InterfaceConfig where
  name := "eth0"
  ipv4Addrs := ["192.168.1.2/24"]
  gateway4 := "192.168.1.1"
  ipv6Addrs := ["fd00::2/64"]
  gateway6 := "fd00::1"
  mtu := 1500
  dns := ["1.1.1.1", "2606:4700::1111"]

theorem staticEth0_round_trips :
    staticEth0.PlainIPv6 ∧ parseNetworkFileSettings (generateNetworkFile staticEth0) = staticEth0.toIPSettings := by
  have plain : staticEth0.PlainIPv6 := by decide
  exact ⟨plain, ((network_file_round_trips_iff ⟨by decide, by decide⟩).mpr plain).1⟩

/-- A colon and a slash are enough for an IPv6 address, so one that goes on with another line
is accepted and puts that line into the file: here the address switches DHCP on. -/
theorem ipv6_address_adds_directive :
    InterfaceConfig.Accepted { name := "eth0", ipv6Addrs := ["fd00::2/64\nDHCP=yes"] } ∧
    Ini.items (generateNetworkFile { name := "eth0", ipv6Addrs := ["fd00::2/64\nDHCP=yes"] }) =
      [.heading "Match", .directive "Name" "eth0", .heading "Network",
        .directive "Address" "fd00::2/64", .directive "DHCP" "yes",
        .directive "IPv6AcceptRA" "false", .heading "Link"] ∧
    (parseNetworkFileSettings
      (generateNetworkFile { name := "eth0", ipv6Addrs := ["fd00::2/64\nDHCP=yes"] })).dhcp4 = true :=
  ⟨⟨by decide, by decide⟩, by decide, by decide⟩

end Tierd.Network
