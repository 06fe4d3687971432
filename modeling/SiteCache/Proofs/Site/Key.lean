import SiteCache.Proofs.Octets
import SiteCache.Site.Reader

/-!
# Keys of a website

The octets of a key tell everything about it but its path, of which they tell the digest: two keys
have the same octets exactly if they are of one family, their paths have one digest, and they agree
on the index or on the metadata key (`SiteKey.Alike`).  The first octet tells the families apart,
but for chunks and their number, which the mark behind the digest tells apart; every digest has the
same length, so that nothing behind it can be taken for a part of it.  Path entries are recognised
among the keys (`SiteKey.isLocation_encode_iff`), and so are the headers of a path, up to its
digest, and those of the website (`Reader.isPrefixOf_fileBeginning_iff`,
`Reader.isPrefixOf_globalBeginning_iff`).
-/

namespace SiteCache

namespace SiteKey

/-- The index of a chunk fits into its four octets. -/
def Fits : SiteKey → Prop
  | chunk _ index => index < 4294967296
  | _ => True

/-- Keys of one family with one index or metadata key, for paths of one digest. -/
inductive Alike : SiteKey → SiteKey → Prop
  | chunkCount {p q : String} (digest : pathDigest p = pathDigest q) :
    Alike (.chunkCount p) (.chunkCount q)
  | chunk {p q : String} (digest : pathDigest p = pathDigest q) (index : Nat) :
    Alike (.chunk p index) (.chunk q index)
  | location {p q : String} (digest : pathDigest p = pathDigest q) :
    Alike (.location p) (.location q)
  | fileMetadata {p q : String} (digest : pathDigest p = pathDigest q) (key : Octets) :
    Alike (.fileMetadata p key) (.fileMetadata q key)
  | globalMetadata (key : Octets) : Alike (.globalMetadata key) (.globalMetadata key)

/-- The octet that a key begins with. -/
def firstOctet : SiteKey → UInt8
  | chunkCount _ => 0x01
  | chunk _ _ => 0x01
  | location _ => 0x02
  | fileMetadata _ _ => 0x05
  | globalMetadata _ => 0x06

variable {k l : SiteKey} {p q path : String} {tag x y behind : Octets} {o : UInt8} {i j : Nat}

theorem head?_encode (k : SiteKey) :
  k.encode.head? = some k.firstOctet
  := by
  cases k <;> rfl

theorem firstOctet_eq_of_encode_eq (same : k.encode = l.encode) :
  k.firstOctet = l.firstOctet
  := by
  have heads := congrArg List.head? same
  rwa [head?_encode, head?_encode, Option.some.injEq] at heads

theorem firstOctet_eq_of_prefix (front : o :: behind <+: k.encode) :
  k.firstOctet = o
  := by
  obtain ⟨rest, whole⟩ := front
  have heads := congrArg List.head? whole
  rw [head?_encode] at heads
  exact (Option.some.inj heads).symm

/-- Behind a tag, the digest and what follows it are told apart by the length of the digest. -/
theorem digest_append_inj :
  tag ++ pathDigest p ++ x = tag ++ pathDigest q ++ y ↔ pathDigest p = pathDigest q ∧ x = y
  := by
  have width (path : String) : (pathDigest path).length = 32 := Digest.length_sha256 _
  constructor
  · intro same
    rw [List.append_assoc, List.append_assoc] at same
    exact List.append_inj (List.append_cancel_left same) ((width p).trans (width q).symm)
  · rintro ⟨digest, rfl⟩
    rw [digest]

theorem encode_chunk_inj (hi : i < 4294967296) (hj : j < 4294967296) :
  (chunk p i).encode = (chunk q j).encode ↔ pathDigest p = pathDigest q ∧ i = j
  := by
  rw [encode, encode, List.append_assoc, List.append_assoc (fileTag ++ pathDigest q),
    digest_append_inj, List.append_cancel_left_eq, Octets.bigEndian_inj hi hj]

theorem encode_chunk_ne_chunkCount (p : String) (i : Nat) (q : String) :
  (chunk p i).encode ≠ (chunkCount q).encode
  := by
  intro same
  rw [encode, encode, List.append_assoc] at same
  cases (digest_append_inj.1 same).2

/-- The octets tell the family, the digest, and the index or the metadata key. -/
theorem alike_of_encode_eq (hk : k.Fits) (hl : l.Fits) (same : k.encode = l.encode) :
  k.Alike l
  := by
  -- Families with different tags differ at once; chunks and their number need the mark.
  have first := firstOctet_eq_of_encode_eq same
  cases k with
  | chunkCount p =>
      cases l with
      | chunkCount q => exact .chunkCount (digest_append_inj.1 same).1
      | chunk q j => exact absurd same.symm (encode_chunk_ne_chunkCount q j p)
      | _ => cases first
  | chunk p i =>
      cases l with
      | chunkCount q => exact absurd same (encode_chunk_ne_chunkCount p i q)
      | chunk q j =>
          obtain ⟨digest, rfl⟩ := (encode_chunk_inj hk hl).1 same
          exact .chunk digest i
      | _ => cases first
  | location p =>
      cases l with
      | location q => exact .location (List.append_cancel_left same)
      | _ => cases first
  | fileMetadata p key =>
      cases l with
      | fileMetadata q key' =>
          obtain ⟨digest, rfl⟩ := digest_append_inj.1 same
          exact .fileMetadata digest key
      | _ => cases first
  | globalMetadata key =>
      cases l with
      | globalMetadata key' =>
          obtain rfl := List.append_cancel_left same
          exact .globalMetadata key
      | _ => cases first

theorem Alike.encode_eq (h : k.Alike l) :
  k.encode = l.encode
  := by
  cases h with
  | chunkCount digest => rw [encode, encode, digest]
  | chunk digest index => rw [encode, encode, digest]
  | location digest => rw [encode, encode, digest]
  | fileMetadata digest key => rw [encode, encode, digest]
  | globalMetadata key => rfl

theorem isLocation_location (path : String) :
  isLocation (location path).encode
  := by
  have long : (pathDigest path).length = 32 := Digest.length_sha256 _
  have front : locationTag.isPrefixOf (locationTag ++ pathDigest path) :=
    List.isPrefixOf_iff_prefix.2 (List.prefix_append _ _)
  rw [isLocation, encode, front, List.length_append, long, Bool.and_true, decide_eq_true_eq]
  omega

/-- Of the keys of a website, those of path entries are recognised. -/
theorem isLocation_encode_iff :
  isLocation k.encode = true ↔ ∃ path, k = location path
  := by
  constructor
  · intro located
    rw [isLocation, Bool.and_eq_true, List.isPrefixOf_iff_prefix] at located
    have first := firstOctet_eq_of_prefix located.2
    cases k with
    | location path => exact ⟨path, rfl⟩
    | _ => cases first
  · rintro ⟨path, rfl⟩
    exact isLocation_location path

end SiteKey

namespace Reader

open SiteKey

variable {k : SiteKey} {path : String}

/-- Of the keys of a website, exactly the headers of paths with the digest of this one begin as its
headers do. -/
theorem isPrefixOf_fileBeginning_iff :
  (fileBeginning path).isPrefixOf k.encode = true
    ↔ ∃ q name, k = .fileMetadata q (Utf8.encode headerMark ++ name)
        ∧ pathDigest q = pathDigest path
  := by
  rw [List.isPrefixOf_iff_prefix]
  constructor
  · intro front
    have first := firstOctet_eq_of_prefix front
    cases k with
    | fileMetadata q key =>
        obtain ⟨name, whole⟩ := front
        rw [fileBeginning, encode, encode, List.append_assoc] at whole
        obtain ⟨digest, rfl⟩ := digest_append_inj.1 whole
        exact ⟨q, name, rfl, digest.symm⟩
    | _ => cases first
  · rintro ⟨q, name, rfl, digest⟩
    refine ⟨name, ?_⟩
    rw [fileBeginning, encode, encode, digest, List.append_assoc]

/-- Of the keys of a website, exactly its own headers begin as such. -/
theorem isPrefixOf_globalBeginning_iff :
  globalBeginning.isPrefixOf k.encode = true
    ↔ ∃ name, k = .globalMetadata (Utf8.encode headerMark ++ name)
  := by
  rw [List.isPrefixOf_iff_prefix]
  constructor
  · intro front
    have first := firstOctet_eq_of_prefix front
    cases k with
    | globalMetadata key =>
        obtain ⟨name, whole⟩ := front
        rw [globalBeginning, encode, encode, List.append_assoc] at whole
        obtain rfl := List.append_cancel_left whole
        exact ⟨name, rfl⟩
    | _ => cases first
  · rintro ⟨name, rfl⟩
    refine ⟨name, ?_⟩
    rw [globalBeginning, encode, encode, List.append_assoc]

end Reader

namespace SiteKey

/-- Two keys have the same octets exactly if they are of one family, with one digest of their paths
and one index or metadata key.  A key is recognised as a path entry exactly if it is one.  It
begins as the headers of a path do exactly if it is a header of a path with the same digest, and as
the headers of the website do exactly if it is one of them. -/
theorem keys_apart :
  (∀ k l : SiteKey, k.Fits → l.Fits → (k.encode = l.encode ↔ k.Alike l))
    ∧ (∀ k : SiteKey, isLocation k.encode = true ↔ ∃ path, k = .location path)
    ∧ (∀ (p : String) (k : SiteKey), (Reader.fileBeginning p).isPrefixOf k.encode = true
        ↔ ∃ q name, k = .fileMetadata q (Utf8.encode headerMark ++ name)
            ∧ pathDigest q = pathDigest p)
    ∧ ∀ k : SiteKey, Reader.globalBeginning.isPrefixOf k.encode = true
        ↔ ∃ name, k = .globalMetadata (Utf8.encode headerMark ++ name)
  := by
  refine ⟨fun k l hk hl => ⟨?_, ?_⟩, fun k => isLocation_encode_iff,
    fun p k => Reader.isPrefixOf_fileBeginning_iff, fun k => Reader.isPrefixOf_globalBeginning_iff⟩
  · exact alike_of_encode_eq hk hl
  · exact Alike.encode_eq

/-- Metadata keys that imitate other keys: the mark of a chunk count behind the digest of a path,
and a whole path entry behind the tag of the website.  Indices of which one octet is the same in
another place, and a header of another path. -/
theorem keys_apart_imitations :
  (chunk "a" 1).Fits ∧ (chunk "a" 256).Fits ∧ (chunk "a" 1).encode ≠ (chunk "a" 256).encode
    ∧ (fileMetadata "a" countMark).Fits ∧ (chunkCount "a").Fits
    ∧ (fileMetadata "a" countMark).encode ≠ (chunkCount "a").encode
    ∧ isLocation (globalMetadata (location "a").encode).encode = false
    ∧ let header := fileMetadata "b" (Utf8.encode headerMark ++ Utf8.encode "Vary")
      (Reader.fileBeginning "b").isPrefixOf header.encode = true
        ∧ (Reader.fileBeginning "a").isPrefixOf header.encode = false
  := by
  obtain ⟨same, located, ofFile, -⟩ := keys_apart
  have near : (chunk "a" 1).Fits := show 1 < 4294967296 by decide
  have far : (chunk "a" 256).Fits := show 256 < 4294967296 by decide
  refine ⟨near, far, ?_, trivial, trivial, ?_, ?_, ?_, ?_⟩
  · rw [ne_eq, same _ _ near far]
    nofun
  · rw [ne_eq, same (fileMetadata "a" countMark) (chunkCount "a") trivial trivial]
    nofun
  · rw [Bool.eq_false_iff, ne_eq, located]
    nofun
  · exact (ofFile _ _).2 ⟨"b", Utf8.encode "Vary", rfl, rfl⟩
  · rw [Bool.eq_false_iff, ne_eq, ofFile]
    rintro ⟨q, name, equal, digest⟩
    obtain ⟨rfl, -⟩ := SiteKey.fileMetadata.inj equal
    exact absurd digest (by decide +kernel)

end SiteKey

end SiteCache
