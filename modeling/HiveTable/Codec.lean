import HiveTable.Failure

/-! Compression codecs, by short name in any letter case or by the exact class name. -/
namespace HiveTable

inductive Codec
  | none | deflate | gzip | bzip2 | lzo | lzop | lz4 | snappy
  deriving DecidableEq

namespace Codec

def all : List Codec := [.none, .deflate, .gzip, .bzip2, .lzo, .lzop, .lz4, .snappy]

def shortName : Codec → String
  | .none => "none"
  | .deflate => "deflate"
  | .gzip => "gzip"
  | .bzip2 => "bzip2"
  | .lzo => "lzo"
  | .lzop => "lzop"
  | .lz4 => "lz4"
  | .snappy => "snappy"

def className? : Codec → Option String
  | .none => .none
  | .deflate => some "org.apache.hadoop.io.compress.DefaultCodec"
  | .gzip => some "org.apache.hadoop.io.compress.GzipCodec"
  | .bzip2 => some "org.apache.hadoop.io.compress.BZip2Codec"
  | .lzo => some "com.hadoop.compression.lzo.LzoCodec"
  | .lzop => some "com.hadoop.compression.lzo.LzopCodec"
  | .lz4 => some "org.apache.hadoop.io.compress.Lz4Codec"
  | .snappy => some "org.apache.hadoop.io.compress.SnappyCodec"

/-- Blanks around a short name do not count; around a class name they do. -/
def ofText? (t : Text) : Option Codec :=
  (all.find? fun c => t.trim.lower == Text.ofString c.shortName).or
    (all.find? fun c => c.className?.any (t == Text.ofString ·))

def ofValue (v : Value) : Except Failure Codec :=
  if !v.isGiven then .error (.refused .emptyCodec)
  else
    match v with
    | .text t =>
      match ofText? t with
      | some c => .ok c
      | .none => .error (.refused (.unknownCodec t))
    | _ => .error .notText

/-- Whether a setting asks for the codec whose files can be split by an index: its short name
or its class name, blanks around them aside. -/
def isIndexed (v : Value) : Except Failure Bool :=
  if !v.isGiven then .ok false
  else
    match v with
    | .text t =>
      .ok (t.trim.lower == Text.ofString Codec.lzop.shortName ||
        Codec.lzop.className?.any (t.trim == Text.ofString ·))
    | _ => .error .notText

end Codec

end HiveTable
