import Ipsec.Proofs.Esp.Opening
import Ipsec.Proofs.Esp.Payload
import Ipsec.Proofs.Esp.Sealed
import Ipsec.Proofs.Ip.Codec
import Ipsec.Tunnel.Basic

/-!
# What a datagram is told

The bytes of a datagram, the agreed keys and the expected number decide what the tunnel answers
when it takes the datagram apart, and what it logs. `Verdict` says it in terms of the bytes: each
case names one check that fails and holds those that passed before it. There is a verdict on every
byte string (`exists_verdict`) and it is the one that is given (`Verdict.decapsulate_eq`), so the
cases exclude each other. Whatever is refused changes nothing that a later verdict depends on
(`decapsulate_gives_verdict`).
-/

namespace Ipsec

namespace Esp

/-! ## Frames -/

/-- A datagram laid out in bytes, with a tag of 16 bytes at the end. -/
structure Datagram.Framed (d : Datagram) (data tag : Bytes) : Prop where
  bytes : data = bytes32 d.spi ++ bytes32 d.sequence ++ d.payload ++ tag
  length : tag.length = 16

namespace Datagram

variable {d : Datagram} {data tag : Bytes}

theorem Framed.ofBytes_eq (h : d.Framed data tag) : ofBytes Suite.tagLength data = .ok d := by
  obtain ⟨rfl, hlength⟩ := h
  have hread := d.ofBytes_toBytes_append tag
  rwa [hlength] at hread

theorem exists_framed (h : 24 ≤ data.length) : ∃ d tag, Framed d data tag := by
  obtain ⟨d, hread⟩ := (ofBytes_isOk Suite.tagLength data).2 h
  refine ⟨d, ?_⟩
  unfold ofBytes at hread
  split at hread
  · next rest =>
    split at hread
    · cases hread
    · next hroom =>
      cases hread
      refine ⟨rest.drop (rest.length - Suite.tagLength), ?_, ?_⟩
      · simp only [bytes32_word32, List.cons_append, List.nil_append, List.take_append_drop]
      · simp only [Suite.tagLength] at hroom ⊢
        rw [List.length_drop]
        omega
  · cases hread

theorem ofBytes_of_short (h : data.length < 24) :
    ofBytes Suite.tagLength data = .error (.truncated data.length) := by
  cases hread : ofBytes Suite.tagLength data with
  | ok d => exact absurd ((ofBytes_isOk _ _).1 ⟨d, hread⟩) (Nat.not_le.2 h)
  | error e => rw [eq_truncated hread]

/-- The tag of a framed datagram is that of the bytes before it, or does not verify. -/
theorem Framed.verifyTag_iff (h : d.Framed data tag) (s : Suite) :
    s.verifyTag data ↔ tag = s.tag d.toBytes := by
  have hdata : data = d.toBytes ++ tag := h.bytes
  have hfront : data.length - Suite.tagLength = d.toBytes.length := by
    rw [hdata, List.length_append, h.length, Suite.tagLength, Nat.add_sub_cancel]
  have hroom : Suite.tagLength ≤ data.length := by
    rw [hdata, List.length_append, h.length, Suite.tagLength]
    exact Nat.le_add_left _ _
  rw [Suite.verifyTag_iff, hfront, hdata, List.drop_left, List.take_left, ← hdata]
  exact and_iff_right hroom

end Datagram

/-! ## Verdicts -/

namespace Association

/-- A datagram has the right index, a number that is not used, and the right tag. -/
structure Genuine (a : Association) (next : Nat) (data : Bytes) (d : Datagram) : Prop where
  framed : d.Framed data (a.inbound.tag d.toBytes)
  spi : d.spi = a.spiIn
  recent : next ≤ d.sequence.toNat

/-- What is answered to a datagram and what is logged, if `next` is the expected number. -/
inductive Verdict (a : Association) (next : Nat) (data : Bytes) :
    Except EspError Ipv4.Packet → List Notice → Prop where
  /-- There is no room for the two words and the tag. -/
  | truncated (h : data.length < 24) : Verdict a next data (.error (.truncated data.length)) []
  /-- The first word is not the index. -/
  | foreign {d : Datagram} {tag : Bytes} (hframe : d.Framed data tag) (h : d.spi ≠ a.spiIn) :
      Verdict a next data (.error (.spiMismatch a.spiIn d.spi)) []
  /-- The second word is below the expected number. -/
  | stale {d : Datagram} {tag : Bytes} (hframe : d.Framed data tag) (hspi : d.spi = a.spiIn)
      (h : d.sequence.toNat < next) :
      Verdict a next data (.error (.staleSequence next d.sequence)) []
  /-- The tag is that of the other direction. -/
  | reversed {d : Datagram} {tag : Bytes} (hframe : d.Framed data tag) (hspi : d.spi = a.spiIn)
      (hrecent : next ≤ d.sequence.toNat) (h : tag ≠ a.inbound.tag d.toBytes)
      (hother : tag = a.outbound.tag d.toBytes) :
      Verdict a next data (.error .checksumFailure) [.reversedKeys a.spiIn]
  /-- The tag is that of neither direction. -/
  | forged {d : Datagram} {tag : Bytes} (hframe : d.Framed data tag) (hspi : d.spi = a.spiIn)
      (hrecent : next ≤ d.sequence.toNat) (h : tag ≠ a.inbound.tag d.toBytes)
      (hother : tag ≠ a.outbound.tag d.toBytes) :
      Verdict a next data (.error .checksumFailure) []
  /-- The payload cannot be decrypted. -/
  | undecryptable {d : Datagram} {e : EspError} (hgenuine : a.Genuine next data d)
      (h : a.inbound.Decrypted d.payload (.error e)) : Verdict a next data (.error e) []
  /-- The payload is declared to be something else than a packet of version 4. -/
  | unsupported {d : Datagram} {plain : Bytes} {protocol : UInt8}
      (hgenuine : a.Genuine next data d)
      (hplain : a.inbound.Decrypted d.payload (.ok (plain, protocol))) (h : protocol ≠ 4) :
      Verdict a next data (.error (.unsupportedPayload protocol)) []
  /-- The payload is no packet. -/
  | malformed {d : Datagram} {plain : Bytes} {e : EspError} (hgenuine : a.Genuine next data d)
      (hplain : a.inbound.Decrypted d.payload (.ok (plain, 4)))
      (h : Ipv4.Packet.Read plain (.error e)) : Verdict a next data (.error e) []
  /-- The datagram passes all checks. -/
  | accepted {d : Datagram} {plain : Bytes} {packet : Ipv4.Packet}
      (hgenuine : a.Genuine next data d)
      (hplain : a.inbound.Decrypted d.payload (.ok (plain, 4)))
      (h : Ipv4.Packet.Read plain (.ok packet)) :
      Verdict a next data (.ok packet) (a.sequenceNotices d.sequence)

variable {a : Association} {next : Nat} {data : Bytes}

/-- A datagram passes as far as the tag exactly if its bytes say so. -/
theorem authentic_iff_genuine {c : Channel} {d : Datagram} :
    a.Authentic data c d ↔ a.Genuine c.nextInbound data d := by
  constructor
  · rintro ⟨hread, hspi, hrecent, hverify⟩
    obtain ⟨d', tag, hframe⟩ :=
      Datagram.exists_framed ((Datagram.ofBytes_isOk Suite.tagLength data).1 ⟨d, hread⟩)
    obtain rfl : d' = d := Except.ok.inj (hframe.ofBytes_eq.symm.trans hread)
    obtain rfl := (hframe.verifyTag_iff a.inbound).1 hverify
    exact ⟨hframe, hspi, hrecent⟩
  · rintro ⟨hframe, hspi, hrecent⟩
    exact ⟨hframe.ofBytes_eq, hspi, hrecent, (hframe.verifyTag_iff a.inbound).2 rfl⟩

/-- There is a verdict on whatever passes as far as the tag. -/
theorem Genuine.exists_verdict {d : Datagram} (h : a.Genuine next data d) :
    ∃ r notices, a.Verdict next data r notices := by
  obtain ⟨r, hdecrypt⟩ := a.inbound.exists_decrypted d.payload
  match r with
  | .error e => exact ⟨_, _, .undecryptable h hdecrypt⟩
  | .ok (plain, protocol) =>
    by_cases hprotocol : protocol = 4
    · subst hprotocol
      have hread := Ipv4.Packet.read_ofBytes plain
      generalize Ipv4.Packet.ofBytes plain = r at hread
      match r with
      | .error e => exact ⟨_, _, .malformed h hdecrypt hread⟩
      | .ok packet => exact ⟨_, _, .accepted h hdecrypt hread⟩
    · exact ⟨_, _, .unsupported h hdecrypt hprotocol⟩

/-- There is a verdict on every byte string. -/
theorem exists_verdict (a : Association) (next : Nat) (data : Bytes) :
    ∃ r notices, a.Verdict next data r notices := by
  by_cases hlong : 24 ≤ data.length
  · obtain ⟨d, tag, hframe⟩ := Datagram.exists_framed hlong
    by_cases hspi : d.spi = a.spiIn
    · by_cases hrecent : next ≤ d.sequence.toNat
      · by_cases htag : tag = a.inbound.tag d.toBytes
        · subst htag
          exact Genuine.exists_verdict ⟨hframe, hspi, hrecent⟩
        · by_cases hother : tag = a.outbound.tag d.toBytes
          · exact ⟨_, _, .reversed hframe hspi hrecent htag hother⟩
          · exact ⟨_, _, .forged hframe hspi hrecent htag hother⟩
      · exact ⟨_, _, .stale hframe hspi (Nat.lt_of_not_le hrecent)⟩
    · exact ⟨_, _, .foreign hframe hspi⟩
  · exact ⟨_, _, .truncated (Nat.lt_of_not_le hlong)⟩

/-- Taking a datagram apart gives the verdict. -/
theorem Verdict.decapsulate_eq {c : Channel} {r : Except EspError Ipv4.Packet}
    {notices : List Notice} (h : a.Verdict c.nextInbound data r notices) (capture : Bool) :
    (a.decapsulate capture data c).result = r ∧
      (a.decapsulate capture data c).notices = notices := by
  cases h with
  | truncated h => simp [decapsulate, Datagram.ofBytes_of_short h]
  | foreign hframe h => simp [decapsulate, hframe.ofBytes_eq, h]
  | stale hframe hspi h => simp [decapsulate_stale capture hframe.ofBytes_eq hspi h]
  | reversed hframe hspi hrecent h hother =>
    have hin := mt (hframe.verifyTag_iff a.inbound).1 h
    have hout := (hframe.verifyTag_iff a.outbound).2 hother
    simp [decapsulate, hframe.ofBytes_eq, hspi, Nat.not_lt.2 hrecent, hin, tagNotices, hout]
  | forged hframe hspi hrecent h hother =>
    have hin := mt (hframe.verifyTag_iff a.inbound).1 h
    have hout := mt (hframe.verifyTag_iff a.outbound).1 hother
    simp [decapsulate, hframe.ofBytes_eq, hspi, Nat.not_lt.2 hrecent, hin, tagNotices, hout]
  | undecryptable hgenuine h =>
    obtain ⟨hread, hspi, hrecent, hverify⟩ := authentic_iff_genuine.2 hgenuine
    simp [decapsulate, hread, hspi, Nat.not_lt.2 hrecent, hverify, h.decrypt_eq]
  | unsupported hgenuine hplain h =>
    obtain ⟨hread, hspi, hrecent, hverify⟩ := authentic_iff_genuine.2 hgenuine
    simp [decapsulate, hread, hspi, Nat.not_lt.2 hrecent, hverify, hplain.decrypt_eq,
      Protocol.ipv4, h]
  | malformed hgenuine hplain h =>
    obtain ⟨hread, hspi, hrecent, hverify⟩ := authentic_iff_genuine.2 hgenuine
    simp [decapsulate, hread, hspi, Nat.not_lt.2 hrecent, hverify, hplain.decrypt_eq,
      Protocol.ipv4, Ipv4.Packet.ofBytes_eq_iff.2 h]
  | accepted hgenuine hplain h =>
    obtain ⟨hread, hspi, hrecent, hverify⟩ := authentic_iff_genuine.2 hgenuine
    simp [decapsulate, hread, hspi, Nat.not_lt.2 hrecent, hverify, hplain.decrypt_eq,
      Protocol.ipv4, Ipv4.Packet.ofBytes_eq_iff.2 h]

/-! ## The channel -/

theorem capture_eq (c : Channel) (capture : Bool) :
    c.capture capture = { c with captured := (c.capture capture).captured } := by
  cases capture <;> rfl

/-- An accepted datagram moves the expected number behind its own. Apart from that only captured
packets are counted. -/
theorem Opened.channel_eq {capture : Bool} {c : Channel} {opening : Opening}
    (h : a.Opened capture data c opening) :
    (∀ packet, opening.result = .ok packet → ∃ d captured, a.Authentic data c d ∧
      opening.channel = { c with captured, nextInbound := d.sequence.toNat + 1 }) ∧
    ∀ e, opening.result = .error e → ∃ captured, opening.channel = { c with captured } := by
  cases h with
  | malformed => exact ⟨nofun, fun _ _ => ⟨_, capture_eq c capture⟩⟩
  | accepted hauthentic =>
    refine ⟨fun _ _ => ⟨_, (c.capture capture).captured, hauthentic, ?_⟩, nofun⟩
    rw [capture_eq c capture]
  | _ => exact ⟨nofun, fun _ _ => ⟨c.captured, rfl⟩⟩

end Association

end Esp

/-! ## Tunnels -/

namespace Tunnel

variable {ω σ : Type}

/-- What taking a datagram apart does to a tunnel and its host. -/
structure GivesVerdict (s : Scene ω σ) (data : Bytes) : Prop where
  /-- The answer and what is logged are the verdict, and nothing else happens to the host. -/
  verdict : ∀ r notices,
    (s.decapsulate data).1 = r ∧ (s.decapsulate data).2.host = s.host.noteAll notices ↔
      s.tunnel.profile.association.Verdict s.tunnel.channel.nextInbound data r notices
  /-- An accepted datagram moves the expected number behind its own. -/
  accepted : ∀ packet, (s.decapsulate data).1 = .ok packet → ∃ d captured,
    s.tunnel.profile.association.Genuine s.tunnel.channel.nextInbound data d ∧
      (s.decapsulate data).2.tunnel = { s.tunnel with
        channel := { s.tunnel.channel with captured, nextInbound := d.sequence.toNat + 1 } }
  /-- A refused datagram leaves the tunnel as it is, but for the count of captured packets. -/
  refused : ∀ e, (s.decapsulate data).1 = .error e → ∃ captured,
    (s.decapsulate data).2.tunnel =
      { s.tunnel with channel := { s.tunnel.channel with captured } }
  /-- After a refusal every datagram is answered as it would have been before. -/
  again : ∀ e other, (s.decapsulate data).1 = .error e →
    ((s.decapsulate data).2.decapsulate other).1 = (s.decapsulate other).1

/-- The answer and the notices are those of the verdict. -/
theorem decapsulate_verdict {s : Scene ω σ} {data : Bytes} {r : Except EspError Ipv4.Packet}
    {notices : List Notice}
    (h : s.tunnel.profile.association.Verdict s.tunnel.channel.nextInbound data r notices) :
    (s.decapsulate data).1 = r ∧ (s.decapsulate data).2.host = s.host.noteAll notices := by
  obtain ⟨hresult, hnotices⟩ := h.decapsulate_eq s.tunnel.profile.settings.captureTraffic
  exact ⟨hresult, congrArg s.host.noteAll hnotices⟩

/-- Tunnels with the same association that expect the same number give the same answer. -/
theorem decapsulate_congr {s t : Scene ω σ}
    (hassociation : t.tunnel.profile.association = s.tunnel.profile.association)
    (hnext : t.tunnel.channel.nextInbound = s.tunnel.channel.nextInbound) (data : Bytes) :
    (t.decapsulate data).1 = (s.decapsulate data).1 := by
  obtain ⟨r, notices, h⟩ := s.tunnel.profile.association.exists_verdict
    s.tunnel.channel.nextInbound data
  rw [(decapsulate_verdict h).1]
  rw [← hassociation, ← hnext] at h
  exact (decapsulate_verdict h).1

/-- **The verdict on a datagram.** It depends on the bytes, the keys and the expected number, it
names the first check that fails, and only an accepted datagram moves the number. -/
theorem decapsulate_gives_verdict (s : Scene ω σ) (data : Bytes) : GivesVerdict s data := by
  have hends := s.tunnel.profile.association.decapsulate_ends
    s.tunnel.profile.settings.captureTraffic data s.tunnel.channel
  constructor
  · intro r notices
    refine ⟨?_, decapsulate_verdict⟩
    rintro ⟨rfl, hnotices⟩
    obtain ⟨r, notices', h⟩ := s.tunnel.profile.association.exists_verdict
      s.tunnel.channel.nextInbound data
    obtain ⟨rfl, hhost⟩ := decapsulate_verdict h
    have hlog := congrArg Host.log (hhost.symm.trans hnotices)
    rwa [← List.append_cancel_left hlog]
  · intro packet hresult
    obtain ⟨d, captured, hauthentic, hchannel⟩ := hends.channel_eq.1 packet hresult
    refine ⟨d, captured, Esp.Association.authentic_iff_genuine.1 hauthentic, ?_⟩
    rw [← hchannel]
    rfl
  · intro e hresult
    obtain ⟨captured, hchannel⟩ := hends.channel_eq.2 e hresult
    refine ⟨captured, ?_⟩
    rw [← hchannel]
    rfl
  · intro e other hresult
    have hnext : (s.decapsulate data).2.tunnel.channel.nextInbound =
        s.tunnel.channel.nextInbound := hends.nextInbound.2 e hresult
    refine decapsulate_congr ?_ hnext other
    rfl

end Tunnel

end Ipsec
