import GomaServer.GoString
import GomaServer.Toolchain

/-!
# Cloud Storage as the loader sees it

The storage client answers two questions: which objects a bucket lists under a
prefix, and what an object holds. An object's bytes either parse as a
`CmdDescriptor` or make `proto.Unmarshal` fail.
-/

namespace GomaServer

/-- `storage.ObjectAttrs`: the name of a listed object and its update time. -/
structure ObjectAttrs where
  name : String
  updated : Nat
  deriving DecidableEq, Repr

/-- The bytes of an object, as `proto.Unmarshal` takes them. -/
inductive ObjectData where
  | descriptor (d : CmdDescriptor)
  | unparsable (err : String)
  deriving DecidableEq, Repr

/-- The part of `stiface.Client` the loader uses. `objects` is the listing of
`bkt.Objects` with a prefix query, iterated to `iterator.Done` or to its first
error; `read` is `storageReadAll`. -/
structure StorageClient where
  objects : String → String → Except String (List ObjectAttrs)
  read : String → String → Except String ObjectData

/-- `loadDescriptor`. -/
def loadDescriptor (client : StorageClient) (bucket name : String) :
    Except String CmdDescriptor :=
  match client.read bucket name with
  | .error err => .error ("load " ++ name ++ ": " ++ err)
  | .ok (.unparsable err) => .error ("parse " ++ name ++ ": " ++ err)
  | .ok (.descriptor d) => .ok d

/-- `splitGCSPath`: the bucket and the object path of a `gs://` URI. -/
def splitGCSPath (uri : String) : Except String (String × String) :=
  if hasPrefix uri "gs://" then
    match (uri.data.drop 5).span (· ≠ '/') with
    | (bucket, []) => .ok (⟨bucket⟩, "")
    | (bucket, _ :: obj) => .ok (⟨bucket⟩, ⟨obj⟩)
  else .error ("not gs: URI: " ++ quote uri)

/-- The URI `ConfigMapLoader.Load` builds for a runtime, `gs://<bucket>/<name>`. -/
def gcsURI (bucket name : String) : String := "gs://" ++ bucket ++ "/" ++ name

theorem splitGCSPath_gcsURI {bucket : String} (noSlash : '/' ∉ bucket.data) (name : String) :
    splitGCSPath (gcsURI bucket name) = .ok (bucket, name) := by
  have keep : ∀ c ∈ bucket.data, (!decide (c = '/')) = true := by
    intro c mem
    simpa using fun eq : c = '/' => noSlash (eq ▸ mem)
  simp [splitGCSPath, gcsURI, hasPrefix, String.append, List.span_eq_take_drop,
    List.takeWhile_append_of_pos keep, List.dropWhile_append_of_pos keep]

/-! ## A bucket

Cloud Storage lists the objects whose names begin with the query prefix, in
name order. -/

/-- An object of a bucket: its attributes and its bytes. -/
structure StoredObject where
  attrs : ObjectAttrs
  data : ObjectData
  deriving DecidableEq, Repr

/-- The client of one bucket holding `objs`, listed in the order given. -/
def StorageClient.ofBucket (bucketName : String) (objs : List StoredObject) : StorageClient where
  objects bucket pre :=
    if bucket = bucketName then .ok ((objs.filter fun o => hasPrefix o.attrs.name pre).map (·.attrs))
    else .error "storage: bucket doesn't exist"
  read bucket name :=
    match objs.find? fun o => bucket = bucketName ∧ o.attrs.name = name with
    | some o => .ok o.data
    | none => .error "storage: object doesn't exist"

end GomaServer
