import Provision.Url

/-!
# Requests and responses
-/

namespace Provision.Http

structure Response where
  status : Nat
  body : String
  deriving DecidableEq, Repr

/-- The reasons that go with statuses. -/
def reasons : List (Nat × String) := [
  (100, "Continue"), (101, "Switching Protocols"), (102, "Processing"), (200, "OK"),
  (201, "Created"), (202, "Accepted"), (203, "Non Authoritative Information"),
  (204, "No Content"), (205, "Reset Content"), (206, "Partial Content"), (207, "Multi-Status"),
  (208, "Already Reported"), (226, "IM Used"), (300, "Multiple Choices"),
  (301, "Moved Permanently"), (302, "Found"), (303, "See Other"), (304, "Not Modified"),
  (305, "Use Proxy"), (307, "Temporary Redirect"), (308, "Permanent Redirect"),
  (400, "Bad Request"), (401, "Unauthorized"), (402, "Payment Required"), (403, "Forbidden"),
  (404, "Not Found"), (405, "Method Not Allowed"), (406, "Not Acceptable"),
  (407, "Proxy Authentication Required"), (408, "Request Timeout"), (409, "Conflict"),
  (410, "Gone"), (411, "Length Required"), (412, "Precondition Failed"),
  (413, "Payload Too Large"), (414, "URI Too Long"), (415, "Unsupported Media Type"),
  (416, "Range Not Satisfiable"), (417, "Expectation Failed"), (418, "I'm a teapot"),
  (421, "Misdirected Request"), (422, "Unprocessable Entity"), (423, "Locked"),
  (424, "Failed Dependency"), (426, "Upgrade Required"), (428, "Precondition Required"),
  (429, "Too Many Requests"), (431, "Request Header Fields Too Large"),
  (451, "Unavailable For Legal Reasons"), (500, "Internal Server Error"),
  (501, "Not Implemented"), (502, "Bad Gateway"), (503, "Service Unavailable"),
  (504, "Gateway Timeout"), (505, "HTTP Version Not Supported"),
  (506, "Variant Also Negotiates"), (507, "Insufficient Storage"), (508, "Loop Detected"),
  (510, "Not Extended"), (511, "Network Authentication Required")]

namespace Response

def isSuccess (r : Response) : Bool := 200 ≤ r.status && r.status < 300

/-- The status and its reason. -/
def statusText (r : Response) : String :=
  let reason := (reasons.lookup r.status).getD "<unknown status code>"
  toString r.status ++ " " ++ reason

/-- Some statuses come without a body, whatever was sent. -/
def content (r : Response) : String := if r.status = 204 || r.status = 304 then "" else r.body

/-- Behind the blank line that ends the head. -/
def bodyOf : List Char → Option (List Char)
  | '\r' :: '\n' :: '\r' :: '\n' :: body => some body
  | _ :: r => bodyOf r
  | [] => none

/-- A response, from the characters of its bytes. -/
def read? : List Char → Option Response
  | 'H' :: 'T' :: 'T' :: 'P' :: '/' :: '1' :: '.' :: _ :: ' ' :: a :: b :: c :: r => do
    let status ← Number.readNatural? [a, b, c]
    let bytes := (← bodyOf r).map fun c => UInt8.ofNat c.toNat
    some { status, body := (String.fromUTF8? ⟨bytes.toArray⟩).getD "" }
  | _ => none

end Response

/-- The host as it is named in a request. -/
def hostText : Host → String
  | .domain name => name
  | .v4 n => ".".intercalate
    ([24, 16, 8, 0].map fun place => toString ((n >>> place) % 256))
  | .v6 groups =>
    let texts := groups.map fun group => String.ofList (Nat.toDigits 16 group)
    "[" ++ ":".intercalate texts ++ "]"

/-- Bytes that a target has as they are. -/
def isPlain (byte : UInt8) : Bool :=
  0x20 < byte && byte < 0x7f && byte != 0x22 && byte != 0x3c && byte != 0x3e

/-- A byte of a target, escaped where it has to be. -/
def targetByte (byte : UInt8) : List Char :=
  if isPlain byte then [Char.ofNat byte.toNat]
  else ['%', Nat.digitChar (byte.toNat / 16), Nat.digitChar (byte.toNat % 16)].map Char.toUpper

/-- The request for a target; the connection ends behind the answer. -/
def request (host : Host) (portNumber : Option Nat) (target : String) : String :=
  let place := hostText host ++ (portNumber.map fun n => ":" ++ toString n).getD ""
  let escaped := String.ofList (target.toUTF8.toList.flatMap targetByte)
  "GET " ++ escaped ++ " HTTP/1.0\r\nHost: " ++ place ++ "\r\nAccept: */*\r\n\r\n"

end Provision.Http
