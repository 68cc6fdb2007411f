import OpenProof.HttpsUrls
import OpenProof.IdentityProfiles
import OpenProof.SenderProofs

namespace OpenProof.Web3Texts
open Foundation HttpsUrls IdentityProfiles SenderProofs

def authenticationFailure (detail : Text) : Error :=
  .of .authenticationFailed (defaultErrorMessage .authenticationFailed) detail

def safeText (value : Text) (maximum : Nat) : Bool := !value.isEmpty && value.length ≤ maximum && !value.any isControl

-- `std::isalnum` in the C locale.
def isAlnum (byte : UInt8) : Bool := isDigit byte || isUpper byte || isLower byte

def validDomain (value : Text) : Bool :=
  safeText value 253 && !value.contains (ch '/') && !value.contains (ch '@') && !value.contains (ch '\\')
    && value.head? != some (ch '.') && value.getLast? != some (ch '.')
    && value.all fun symbol => isAlnum symbol || symbol == ch '.' || symbol == ch '-' || symbol == ch ':'

def validHttpsHost (value : Text) : Bool :=
  safeText value 253 && value.head? != some (ch '.') && value.getLast? != some (ch '.')
    && !value.tails.any (Text.of "..").isPrefixOf && !value.contains (ch ':')
    && value.all fun symbol => isAlnum symbol || symbol == ch '.' || symbol == ch '-'

-- `std::from_chars` for an unsigned integer below `limit`, when it has to consume everything.
def fromCharsUnsigned (limit : Nat) (text : Text) : Option Nat :=
  ((digitsValue text).filter fun (value : Int) => value < (limit : Int)).map Int.toNat

def splitAuthority (authority : Text) : Result (Text × Text) :=
  match splitLast (ch ':') authority with
  | none => .ok (authority,"443")
  | some (host,port) =>
    if host.contains (ch ':') then fail .invalidArgument "A Web3 endpoint has an invalid HTTPS authority."
    else if !(fromCharsUnsigned 4294967296 port).any (fun port => port != 0 && port ≤ 65535) then
      fail .invalidArgument "A Web3 endpoint has an invalid HTTPS port."
    else .ok (host,port)

def parseHttpsUrl (raw : Text) : Result HttpsUrl :=
  if !(Text.of "https://").isPrefixOf raw || raw.length > 4096 || raw.contains (ch '#') || raw.contains (ch '\\')
      || raw.any isBlankOrControl then
    fail .invalidArgument "A Web3 endpoint must be a structurally valid HTTPS URL."
  else
    let raw := raw.drop 8
    let authority := raw.takeWhile fun byte => !endsAuthority byte
    let path := raw.dropWhile fun byte => !endsAuthority byte
    if authority.isEmpty || authority.contains (ch '@') || authority.contains (ch '[') || authority.contains (ch ']') then
      fail .invalidArgument "A Web3 endpoint has an invalid HTTPS authority."
    else match splitAuthority authority with
      | .error e => .error e
      | .ok (host,port) =>
        if !validHttpsHost host then fail .invalidArgument "A Web3 endpoint has an invalid HTTPS host."
        else .ok ⟨host,port,if path.isEmpty then [ch '/'] else if path.head? == some (ch '/') then path else ch '/' :: path⟩

def isHex (value : UInt8) : Bool :=
  isDigit value || (ch 'a' ≤ value && value ≤ ch 'f') || (ch 'A' ≤ value && value ≤ ch 'F')

def hexNibble (value : UInt8) : UInt8 :=
  if isDigit value then value - ch '0'
  else if ch 'a' ≤ value && value ≤ ch 'f' then 10 + (value - ch 'a')
  else 10 + (value - ch 'A')

def hexPairs : Text → Text
  | high :: low :: rest => ((hexNibble high <<< 4) ||| hexNibble low) :: hexPairs rest
  | _ => []

def decodeHex (value : Text) : Option Text :=
  let value := if (Text.of "0x").isPrefixOf value then value.drop 2 else value
  if value.length % 2 ≠ 0 || !value.all isHex then none else some (hexPairs value)

def hexAlphabet : Text := "0123456789abcdef"

def encodeHex (input : Text) (withPrefix : Bool) : Text :=
  (if withPrefix then Text.of "0x" else []) ++
    input.flatMap fun (byte : UInt8) => [hexAlphabet.getD ((byte >>> 4) &&& 0x0F).toNat 0,hexAlphabet.getD (byte &&& 0x0F).toNat 0]

def normalizeAddress (value : Text) : Option Text :=
  if value.length ≠ 42 || !(Text.of "0x").isPrefixOf value || !(value.drop 2).all isHex then none else some (toLower value)

end OpenProof.Web3Texts
