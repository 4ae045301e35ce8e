/-!
Hexadecimal text, in lower case: bytes as two digits each, and numbers after `0x`.
-/
namespace TabletRecords.Text

def hexOfByte (byte : UInt8) : String :=
  String.ofList [Nat.digitChar (byte.toNat / 16), Nat.digitChar (byte.toNat % 16)]

def hexOfBytes (bytes : List UInt8) : String :=
  String.join (bytes.map hexOfByte)

def hexDigits (n : Nat) : String :=
  String.ofList (Nat.toDigits 16 n)

def hexNumber (n : Nat) : String :=
  "0x" ++ hexDigits n

end TabletRecords.Text
