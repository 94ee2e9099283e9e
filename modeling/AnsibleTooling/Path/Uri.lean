import AnsibleTooling.Path.Basic

set_option autoImplicit false

namespace AnsibleTooling.Uri

def reserved : List Char :=
  "\"#%/<>?\\`\x7b\x7d".toList

def isPlain (byte : UInt8) : Bool :=
  0x20 < byte && byte < 0x7F && !(reserved.any fun char => char.toNat == byte.toNat)

def upperDigit (value : Nat) : Char :=
  (Nat.digitChar value).toUpper

def encodeByte (byte : UInt8) : List Char :=
  if isPlain byte then [Char.ofNat byte.toNat]
  else ['%', upperDigit (byte.toNat / 16), upperDigit (byte.toNat % 16)]

def encodeName (name : Bytes) : List Char :=
  '/' :: name.flatMap encodeByte

def scheme : String := "file://"

def ofNames (names : List Bytes) : String :=
  scheme ++ (if names.isEmpty then "/" else String.ofList (names.flatMap encodeName))

def document (directory path : Path) : String :=
  ofNames (Path.absolute directory path).names

def directory (path : Path) : String :=
  if path.names.isEmpty then ofNames [] else ofNames path.names ++ "/"

end AnsibleTooling.Uri
