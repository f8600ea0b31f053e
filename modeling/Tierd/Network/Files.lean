import Tierd.Data.Addresses
import Tierd.Data.Guards
import Tierd.Data.Ini

namespace Tierd.Network

open Tierd.Data

structure IPSettings where
  ipv4Addrs : List Text := []
  ipv6Addrs : List Text := []
  gateway4 : Text := []
  gateway6 : Text := []
  dhcp4 : Bool := false
  dhcp6 : Bool := false
  slaac : Bool := false
  mtu : Int := 0
  dns : List Text := []
deriving DecidableEq, Repr

structure InterfaceConfig extends IPSettings where
  name : Text
deriving DecidableEq, Repr

def isLetter (c : Char) : Bool := ('a' ≤ c && c ≤ 'z') || ('A' ≤ c && c ≤ 'Z')

def matchesInterfaceName : Text → Bool
  | [] => false
  | c :: rest =>
    isLetter c && rest.length ≤ 15 && rest.all fun d => isLetter d || d.isDigit || d == '.' || d == '_' || d == '-'

def validateInterfaceName (name : Text) : Except Text Unit :=
  ensure (matchesInterfaceName name = true) ("invalid interface name: " ++ name)

/-- Between one and `most` digits. -/
def isNumber (most : Nat) (part : Text) : Bool := part ≠ [] && part.length ≤ most && part.all Char.isDigit

def matchesIPv4 (addr : Text) : Bool :=
  let parts := addr.splitOn '.'
  parts.length = 4 && parts.all (isNumber 3)

def validateIPv4 (addr : Text) : Except Text Unit :=
  ensure (matchesIPv4 addr = true) ("invalid IPv4 address: " ++ addr)

def matchesIPv4CIDR (addr : Text) : Bool :=
  match addr.splitOn '/' with
  | [address, bits] => matchesIPv4 address && isNumber 2 bits
  | _ => false

def validateIPv4CIDR (addr : Text) : Except Text Unit :=
  ensure (matchesIPv4CIDR addr = true) ("invalid IPv4 CIDR: " ++ addr)

def validateIPv6CIDR (addr : Text) : Except Text Unit :=
  ensure (':' ∈ addr ∧ '/' ∈ addr) ("invalid IPv6 CIDR: " ++ addr)

/-- `%d`. -/
def formatInt : Int → Text
  | .ofNat n => Nat.toDigits 10 n
  | .negSucc n => '-' :: Nat.toDigits 10 (n + 1)

def validateMTU (mtu : Int) : Except Text Unit :=
  ensure (576 ≤ mtu ∧ mtu ≤ 9000) ("invalid MTU " ++ formatInt mtu ++ " (must be 576-9000)")

def validateDNSServer (server : Text) : Except Text Unit :=
  ensure (Addresses.parseIP server = true) ("invalid DNS server: " ++ server)

def validateIPConfig (ip : IPSettings) : Except Text Unit := do
  checkAll validateIPv4CIDR ip.ipv4Addrs
  checkAll validateIPv6CIDR ip.ipv6Addrs
  checkWhen (ip.gateway4 ≠ []) (validateIPv4 ip.gateway4)
  ensure (ip.gateway6 = [] ∨ ':' ∈ ip.gateway6) ("invalid IPv6 gateway: " ++ ip.gateway6)
  checkWhen (ip.mtu ≠ 0) (validateMTU ip.mtu)
  checkAll validateDNSServer ip.dns

def generatedByTierd : Text := "# Auto-generated by tierd. Do not edit."

def directive (key value : Text) : Text := key ++ '=' :: value

def dhcpLines : (dhcp4 dhcp6 : Bool) → List Text
  | true, true => ["DHCP=yes"]
  | true, false => ["DHCP=ipv4"]
  | false, true => ["DHCP=ipv6"]
  | false, false => []

def gatewayLines (gateway : Text) : List Text :=
  if gateway ≠ [] then [directive "Gateway" gateway] else []

/-- The lines `generateNetworkFile` puts into the section for the network. -/
def IPSettings.networkLines (ip : IPSettings) : List Text :=
  dhcpLines ip.dhcp4 ip.dhcp6 ++ ip.ipv4Addrs.map (directive "Address".toList) ++ gatewayLines ip.gateway4 ++
  ip.ipv6Addrs.map (directive "Address".toList) ++ gatewayLines ip.gateway6 ++
  [if ip.slaac then "IPv6AcceptRA=true".toList else "IPv6AcceptRA=false".toList] ++
  ip.dns.map (directive "DNS".toList)

def IPSettings.linkLines (ip : IPSettings) : List Text :=
  if 0 < ip.mtu then [directive "MTUBytes" (formatInt ip.mtu)] else []

def generateNetworkFile (iface : InterfaceConfig) : Text :=
  Ini.spell ([generatedByTierd, "[Match]", directive "Name" iface.name, [], "[Network]"] ++
    iface.networkLines ++
    [[], "[Link]"] ++ iface.linkLines ++
    if iface.dhcp4 then [[], "[DHCPv4]", "ClientIdentifier=mac"] else [])

/-- `strings.ToLower`, as far as a comparison with ASCII words can tell. -/
def toLower (text : Text) : Text :=
  text.map fun c => if c.toNat = 0x130 then 'i' else if c.toNat = 0x212a then 'k' else c.toLower

def cutSign : Text → Bool × Text
  | '-' :: rest => (true, rest)
  | '+' :: rest => (false, rest)
  | text => (false, text)

/-- `strconv.Atoi`. -/
def atoi (text : Text) : Option Int :=
  let digits := (cutSign text).2
  if digits = [] ∨ digits.all Char.isDigit = false then none
  else
    let magnitude : Int := Nat.ofDigitChars 10 digits 0
    let value := if (cutSign text).1 then -magnitude else magnitude
    if -2 ^ 63 ≤ value ∧ value < 2 ^ 63 then some value else none

def applyNetworkSetting (settings : IPSettings) (key value : Text) : IPSettings :=
  if key = "Address" then
    if ':' ∈ value then { settings with ipv6Addrs := settings.ipv6Addrs ++ [value] }
    else { settings with ipv4Addrs := settings.ipv4Addrs ++ [value] }
  else if key = "Gateway" then
    if ':' ∈ value then { settings with gateway6 := value } else { settings with gateway4 := value }
  else if key = "DHCP" then
    if toLower value = "yes" ∨ toLower value = "true" then { settings with dhcp4 := true, dhcp6 := true }
    else if toLower value = "ipv4" then { settings with dhcp4 := true }
    else if toLower value = "ipv6" then { settings with dhcp6 := true }
    else settings
  else if key = "IPv6AcceptRA" then
    { settings with slaac := value = "true" || value = "yes" }
  else if key = "DNS" then { settings with dns := settings.dns ++ [value] }
  else settings

def parseItem (state : IPSettings × Text) : Ini.Item → IPSettings × Text
  | .heading name => (state.1, name)
  | .directive key value =>
    if state.2 = "Network" then (applyNetworkSetting state.1 key value, state.2)
    else if state.2 = "Link" ∧ key = "MTUBytes" then
      match atoi value with
      | some mtu => ({ state.1 with mtu := mtu }, state.2)
      | none => state
    else state

def parseNetworkFileSettings (data : Text) : IPSettings := ((Ini.items data).foldl parseItem ({}, [])).1

end Tierd.Network
