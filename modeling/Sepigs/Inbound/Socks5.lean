import Sepigs.Lib.Dialogue
import Sepigs.Protocol.Address

/-!
# SOCKS5 negotiation (`inbound/socks5.ts`)

`negotiateAuth` and `readCommand` as dialogues with the client, over any reader that hands
out exact numbers of bytes.
-/

namespace Sepigs

open Dialogue

structure Socks5AuthConfig where
  enabled : Bool
  username : String
  password : String
deriving DecidableEq, Repr

structure Socks5Command where
  command : UInt8
  destination : Destination
deriving DecidableEq, Repr

def SOCKS_VERSION : UInt8 := 0x05
def METHOD_NO_AUTH : UInt8 := 0x00
def METHOD_USERNAME_PASSWORD : UInt8 := 0x02
def METHOD_NO_ACCEPTABLE : UInt8 := 0xff

section Negotiation

variable {ρ : Type} [ReadExact ρ SepigsError UInt8] (node : Node) (sent : Bytes → Except SepigsError Unit)

/-- A dialogue of an inbound: its replies are buffers written to the client. -/
abbrev Session (ρ α : Type) := Dialogue ρ Bytes SepigsError α

def authenticateUserPass (auth : Socks5AuthConfig) : Session ρ Unit := do
  let versionBuffer ← read 2
  match versionBuffer[0]?, versionBuffer[1]? with
  | some version, some usernameLength =>
    if version ≠ 0x01 then fail (ProtocolError "invalid SOCKS5 username/password auth packet")
    else
      let username ← read usernameLength.toNat
      let passwordLengthBuffer ← read 1
      match passwordLengthBuffer[0]? with
      | some passwordLength =>
        let password ← read passwordLength.toNat
        if !safeEqual (node.utf8 username) auth.username || !safeEqual (node.utf8 password) auth.password then
          reply sent [0x01, 0x01]
          fail (ProtocolError "SOCKS5 username/password auth failed")
        else reply sent [0x01, 0x00]
      | none => fail (ProtocolError "invalid SOCKS5 password length")
  | _, _ => fail (ProtocolError "invalid SOCKS5 username/password auth packet")

/-- `auth` when it is there and enabled. -/
def requiredAuth (auth : Option Socks5AuthConfig) : Option Socks5AuthConfig :=
  auth.filter Socks5AuthConfig.enabled

def negotiateAuth (auth : Option Socks5AuthConfig) : Session ρ Unit := do
  let head ← read 2
  match head[0]?, head[1]? with
  | some version, some methodCount =>
    if version ≠ SOCKS_VERSION then fail (ProtocolError "invalid SOCKS5 greeting")
    else
      let methods ← read methodCount.toNat
      match requiredAuth auth with
      | some auth =>
        if METHOD_USERNAME_PASSWORD ∉ methods then
          reply sent [SOCKS_VERSION, METHOD_NO_ACCEPTABLE]
          fail (ProtocolError "SOCKS5 client does not support username/password auth")
        else
          reply sent [SOCKS_VERSION, METHOD_USERNAME_PASSWORD]
          authenticateUserPass node sent auth
      | none =>
        if METHOD_NO_AUTH ∉ methods then
          reply sent [SOCKS_VERSION, METHOD_NO_ACCEPTABLE]
          fail (ProtocolError "SOCKS5 client does not support no-auth")
        else reply sent [SOCKS_VERSION, METHOD_NO_AUTH]
  | _, _ => fail (ProtocolError "invalid SOCKS5 greeting")

def readSocksAddress (addressType : UInt8) : Session ρ String := do
  if addressType = 0x01 then
    let bytes ← read 4
    pure (dottedBytes bytes)
  else if addressType = 0x03 then
    let lengthBuffer ← read 1
    match lengthBuffer[0]? with
    | some length =>
      if length = 0 then fail (ProtocolError "invalid SOCKS5 domain length")
      else
        let bytes ← read length.toNat
        pure (node.utf8 bytes)
    | none => fail (ProtocolError "invalid SOCKS5 domain length")
  else if addressType = 0x04 then
    let bytes ← read 16
    pure (JsString.join (ipv6Groups bytes) ':')
  else fail (ProtocolError s!"unsupported SOCKS5 address type {addressType.toNat}")

def readCommand : Session ρ Socks5Command := do
  let head ← read 4
  match head[0]?, head[1]?, head[2]?, head[3]? with
  | some version, some command, some reserved, some addressType =>
    if version ≠ SOCKS_VERSION ∨ reserved ≠ 0x00 then fail (ProtocolError "invalid SOCKS5 request header")
    else
      let host ← readSocksAddress node addressType
      let portBuffer ← read 2
      match portBuffer[0]?, portBuffer[1]? with
      | some high, some low =>
        pure { command := command, destination := makeDestination node host (uint16 high low) }
      | _, _ => fail (ProtocolError "invalid SOCKS5 port")
  | _, _, _, _ => fail (ProtocolError "invalid SOCKS5 request header")

/-- What `handleConnection` does with the client first. -/
def negotiate (auth : Option Socks5AuthConfig) : Session ρ Socks5Command := do
  negotiateAuth node sent auth
  readCommand node

end Negotiation

end Sepigs
