import RemoteConsole.Endpoint.Config
import RemoteConsole.Proofs.Net.Address

/-!
# The address an endpoint listens on

A section gives the address and the port as one text with a colon between them. For an address of
bytes this is the text of the socket address. An address of groups needs brackets in front of a
port (`IpAddress.host`), and without them it is refused. The main statement is
`EndpointConfig.ofSection_ip`.
-/

namespace RemoteConsole

namespace IpAddress

/-- The address as it stands in front of a port. -/
def host : IpAddress → String
  | v4 a b c d => String.ofList (v4 a b c d).text
  | v6 groups => String.ofList ('[' :: (v6 groups).text ++ [']'])

end IpAddress

theorem ServerSection.socketText_eq (s : ServerSection) (bind : List Char) (port : UInt16) :
    socketText { s with bind := String.ofList bind, port } =
      String.ofList (bind ++ ':' :: IpAddress.decimal port.toNat) := by
  have hport : toString port.toNat = String.ofList (IpAddress.decimal port.toNat) :=
    Nat.toString_eq_ofList_toDigits
  have hcolon : ":" = String.ofList [':'] := rfl
  rw [socketText, hport, hcolon, ← String.ofList_append, ← String.ofList_append,
    List.append_assoc, List.singleton_append]

theorem SocketAddress.socketText_host (s : ServerSection) (ip : IpAddress) (port : UInt16) :
    ServerSection.socketText { s with bind := ip.host, port } = text { ip, port } := by
  cases ip with
  | v4 a b c d => exact ServerSection.socketText_eq s _ port
  | v6 groups =>
      refine (ServerSection.socketText_eq s _ port).trans ?_
      simp [text]

theorem SocketAddress.ofText?_text_ip (ip : IpAddress) (port : UInt16) :
    ofText? (text { ip, port }) = some { ip, port } := by
  cases ip with
  | v4 a b c d => exact ofText?_text_v4 a b c d port
  | v6 groups => exact ofText?_text_v6 groups port 0

namespace EndpointConfig

/-- An endpoint listens on every address at every port, but an address of groups has to be
written in brackets: in its own text it is refused, and an address of bytes is not. -/
theorem ofSection_ip (s : ServerSection) (ip : IpAddress) (port : UInt16) :
    let plain : ServerSection := { s with bind := String.ofList ip.text, port }
    let inFront : ServerSection := { s with bind := ip.host, port }
    (ofSection plain = match ip with
      | .v4 .. => .ok (ofParts { ip, port } plain)
      | .v6 _ => .error ⟨plain.socketText⟩) ∧
      ofSection inFront = .ok (ofParts { ip, port } inFront) := by
  intro plain inFront
  have hinFront : SocketAddress.ofText? inFront.socketText = some { ip, port } := by
    rw [SocketAddress.socketText_host, SocketAddress.ofText?_text_ip]
  refine ⟨?_, by rw [ofSection, hinFront]⟩
  cases ip with
  | v4 a b c d =>
      -- In front of a port an address of bytes is written as its own text.
      have hsame : plain = inFront := rfl
      rw [hsame, ofSection, hinFront]
  | v6 groups =>
      have hrefused : SocketAddress.ofText? plain.socketText = none := by
        rw [ServerSection.socketText_eq, SocketAddress.ofText?_unbracketed]
      rw [ofSection, hrefused]

/-- The loopback address of groups is refused in its own text. -/
theorem ofSection_loopback :
    let ip := IpAddress.v6 #v[0, 0, 0, 0, 0, 0, 0, 1]
    String.ofList ip.text = "::1" ∧ ofSection { bind := "::1" } = .error ⟨"::1:3000"⟩ := by
  decide +kernel

end EndpointConfig

end RemoteConsole
