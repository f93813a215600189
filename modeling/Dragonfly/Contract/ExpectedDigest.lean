import Dragonfly.Cdn.Trigger
import Dragonfly.Dfget.Download
import Dragonfly.Daemon.KnownLength

/-!
# One expected digest, three checks

An expected digest travels as `UrlMeta.Digest` to the dfdaemon and the CDN, and as
`--digest` to dfget when it downloads from the source itself. The CDN and dfget read it as
`<algo>:<hex>` (`Dragonfly.Cdn`, `Dragonfly.Dfget`); the daemon's digest reader compares it
whole with the bare MD5 hex of the body (`Dragonfly.Digest`). So the `md5:<hex>` form the
other two accept is refused by the daemon whenever its reader sees `io.EOF`, which on the
known-length path happens when the body sends it with the last bytes.
-/

namespace Dragonfly

open Dragonfly.Digest Dragonfly.Base.GoText

variable {α : Type} (md5 sha256 : List α → List Char)
  (sha256Strings : List (List Char) → List Char)

/-- A well-formed MD5 digest `md5:<hex>` of a content of `L > 0` bytes passes the CDN's
seeding check, for a task registered with the content's length and piece count, and dfget's
check, while the daemon, calculating digests and reading a body of known length that sends
`io.EOF` with its last bytes, fails the download and closes `failCh`. -/
theorem md5Digest_accepted_by_cdn_and_dfget_rejected_by_daemon (peerID : List Char)
    (c : List α) (task : Cdn.TriggerTask) (realCdnFileLength : Int64) (pieceMd5Sign : List Char)
    (hL : 0 < c.length) (hL' : c.length < 2 ^ 50) (hhex : isLowerHex (md5 c))
    (hdigest : task.digest = Algorithm.md5.toString ++ ':' :: md5 c)
    (hp : 0 < task.pieceSize.toInt)
    (hlength : 0 ≤ task.sourceFileLength → task.sourceFileLength = Int64.ofNat c.length)
    (hcount : 0 < task.totalPieceCount → task.totalPieceCount =
      Int32.ofNat ((c.length + task.pieceSize.toInt.toNat - 1) / task.pieceSize.toInt.toNat)) :
    (Cdn.doTrigger md5 sha256 task c realCdnFileLength pieceMd5Sign).2 = .ok () ∧
      Dfget.downloadFromSource md5 sha256 false task.digest c = .ok c ∧
      (Daemon.backSource md5 sha256Strings true (Daemon.Conductor.new peerID) none ⟨c, true⟩
        (Int64.ofNat c.length) task.digest).1.status = some .failed := by
  have hblank : isBlank task.digest = false := by
    rw [hdigest]
    exact isBlank_algorithm _ _
  -- the daemon compares the whole `md5:<hex>` with the bare hex, four characters shorter
  have hne : task.digest ≠ [] := by
    rw [hdigest]
    exact List.append_ne_nil_of_right_ne_nil _ (List.cons_ne_nil _ _)
  have hmd5 : md5 c ≠ task.digest := by
    intro h
    have hlen := congrArg List.length h
    have hname : Algorithm.md5.toString.length = 3 := rfl
    rw [hdigest, List.length_append, List.length_cons, hname] at hlen
    omega
  refine ⟨?_, ?_, ?_⟩
  · exact (Cdn.doTrigger_ok_iff md5 sha256 hblank c realCdnFileLength pieceMd5Sign hp
      (by omega) hlength hcount).mpr ⟨.md5, hdigest⟩
  · rw [hdigest]
    exact Dfget.downloadFromSource_hashOf md5 sha256 .md5 c hhex
  · exact (Daemon.backSource_knownLength_digestNotMatch md5 sha256Strings peerID c task.digest
      hL hL' hne hmd5).1

theorem md5Digest_accepted_by_cdn_and_dfget_rejected_by_daemon_one :
    (Cdn.doTrigger (fun _ => "00".toList) (fun _ => "11".toList) ⟨⟨[], 1, .waiting, 1, [], []⟩, "md5:00".toList, 4⟩
        [(0 : UInt8)] 1 []).2 = .ok () ∧
      Dfget.downloadFromSource (fun _ => "00".toList) (fun _ => "11".toList) false
        "md5:00".toList [(0 : UInt8)] = .ok [0] ∧
      (Daemon.backSource (fun _ => "00".toList) (fun _ => "s".toList) true
        (Daemon.Conductor.new []) none ⟨[(0 : UInt8)], true⟩ (Int64.ofNat [(0 : UInt8)].length)
        "md5:00".toList).1.status = some .failed :=
  md5Digest_accepted_by_cdn_and_dfget_rejected_by_daemon _ _ (fun _ => "s".toList) [] [0]
    ⟨⟨[], 1, .waiting, 1, [], []⟩, "md5:00".toList, 4⟩ 1 [] (by decide) (by decide) (by simp [isLowerHex]) rfl
    (by decide) (fun _ => rfl) (fun _ => rfl)

/-- No expected digest that is not blank passes both the CDN's seeding check and the
daemon's check of a body of known length `L > 0` that sends `io.EOF` with its last bytes:
the CDN takes only `<algo>:<hex>`, the daemon only the bare MD5 hex, and hex holds no colon. -/
theorem expectedDigest_not_accepted_by_cdn_and_daemon (peerID : List Char) (c : List α)
    (task : Cdn.TriggerTask) (realCdnFileLength : Int64) (pieceMd5Sign : List Char)
    (hL : 0 < c.length) (hL' : c.length < 2 ^ 50) (hhex : isLowerHex (md5 c))
    (hblank : isBlank task.digest = false) :
    ¬ ((Cdn.doTrigger md5 sha256 task c realCdnFileLength pieceMd5Sign).2 = .ok () ∧
      (Daemon.backSource md5 sha256Strings true (Daemon.Conductor.new peerID) none ⟨c, true⟩
        (Int64.ofNat c.length) task.digest).1.status = some .succeeded) := by
  rintro ⟨hcdn, hdaemon⟩
  -- the digest the CDN accepted names an algorithm before a colon
  obtain ⟨a, ha⟩ := Cdn.doTrigger_ok_digest md5 sha256 hblank hcdn
  have hcolon : ':' ∈ task.digest := by
    rw [ha]
    exact List.mem_append_right _ List.mem_cons_self
  by_cases hmd5 : md5 c = task.digest
  · exact (isLowerHex_ne hhex (hmd5 ▸ hcolon)).1 rfl
  · -- any other digest fails the daemon's last read
    have hfailed := (Daemon.backSource_knownLength_digestNotMatch md5 sha256Strings peerID c
      task.digest hL hL' (List.ne_nil_of_mem hcolon) hmd5).1
    rw [hfailed] at hdaemon
    cases hdaemon

theorem expectedDigest_not_accepted_by_cdn_and_daemon_md5 :
    ¬ ((Cdn.doTrigger (fun _ => "00".toList) (fun _ => "11".toList)
          ⟨⟨[], 1, .waiting, 1, [], []⟩, "md5:00".toList, 4⟩ [(0 : UInt8)] 1 []).2 = .ok () ∧
        (Daemon.backSource (fun _ => "00".toList) (fun _ => "s".toList) true
          (Daemon.Conductor.new []) none ⟨[(0 : UInt8)], true⟩ (Int64.ofNat [(0 : UInt8)].length)
          "md5:00".toList).1.status = some .succeeded) :=
  expectedDigest_not_accepted_by_cdn_and_daemon _ _ (fun _ => "s".toList) [] [0]
    ⟨⟨[], 1, .waiting, 1, [], []⟩, "md5:00".toList, 4⟩ 1 [] (by decide) (by decide)
    (by simp [isLowerHex]) rfl

end Dragonfly
