import PushRegistry.Service.Exchange

/-!
# The usual client of the activation service

The client does not follow an answer that points to another address, but it works out where that
would lead. A text that is no address counts as a fault of the transport; an address that is not in
order from where the request went is complained about in its own way.

The body of an answer is shown in the encoding that its content type names. There are encodings that
are not made to show bytes as text.

## Main definitions

* `ServiceResponse.location?`, `ServiceResponse.charset?`: where an answer points and its encoding.
* `HttpClient.standard`: the usual client.
-/

namespace PushRegistry

namespace ServiceResponse

/-- The statuses of answers that point to another address. -/
def redirectStatuses : List Int := [301, 302, 303, 307, 308]

/-- The text of the address that an answer points to, if it does. -/
def location? (r : ServiceResponse) : Option String :=
  if r.status ∈ redirectStatuses then r.header? "location" else none

/-- The value of a parameter of a content type, in lower case and without its marks. -/
def parameter? (name : String) (contentType : String) : Option String :=
  (Host.splitAt ';' contentType.toList).findSome? fun part =>
    let (key, value) := Address.cutFirst '=' part
    if Text.trimWith Text.isBlank (key.map Char.toLower) = name.toList then
      value.map fun cs =>
        String.ofList (Text.trimWith (fun c => Text.isBlank c || c = '"') (cs.map Char.toLower))
    else none

/-- The encoding of the body of an answer. -/
def charset? (r : ServiceResponse) : Option String :=
  (r.header? "content-type").bind (parameter? "charset")

end ServiceResponse

namespace HttpClient

/-- Why the client complains about the address that an answer points to. -/
def locationFault? (request : ServiceRequest) (r : ServiceResponse) : Option TransportFault :=
  match r.location? with
  | none => none
  | some location =>
    match Address.ofText? location with
    | none => some .unreachable
    | some address =>
      if (Address.ofText? request.url).all fun base => (base.resolve? address).isSome then none
      else some .invalidAddress

/-- The encodings that do not show any bytes as text. -/
def textlessCharsets : List String :=
  ["base64", "base_64", "base64_codec", "bz2", "bz2_codec", "hex", "hex_codec", "idna", "quopri",
    "quopri_codec", "quoted_printable", "quotedprintable", "rot13", "rot_13", "undefined", "uu",
    "uu_codec", "zip", "zlib", "zlib_codec"]

/-- Whether an encoding shows bytes as text. Hyphens and blanks in its name stand for underscores,
and an encoding that is not known is not used. -/
def readsCharset (charset : String) : Bool :=
  let name := charset.toList.map fun c => if c = '-' || c = ' ' then '_' else c
  !textlessCharsets.contains (String.ofList name)

/-- The usual client. A thousand calls may be inside one another, of which a hundred are left to its
callers; the exact number depends on them. -/
def standard : HttpClient where
  fault? := locationFault?
  room := 900
  showsText r := r.body.isEmpty || r.charset?.all readsCharset

end HttpClient

end PushRegistry
