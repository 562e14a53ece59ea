set_option autoImplicit false

/-!
# Catalog of fields

The fields of a release that a condition can be labelled with, and values that are common in them.
The values are ready to stand in a pattern.
-/
namespace ReleaseMatch

structure Field where
  key : String
  label : String
  description : String
  deriving DecidableEq, Repr

namespace Catalog

def fields : List Field :=
  [⟨"releaseTitle", "Release Name", "Full release/file name"⟩,
    ⟨"source", "Source", "BluRay, WEB-DL, HDTV, etc."⟩,
    ⟨"resolution", "Resolution", "720p, 1080p, 2160p, etc."⟩,
    ⟨"hdr", "HDR Format", "HDR10, DV, HDR10+, HLG"⟩,
    ⟨"audio", "Audio Codec", "DTS-HD, TrueHD, FLAC, AAC, etc."⟩,
    ⟨"videoCodec", "Video Codec", "x264, x265, HEVC, AVC, etc."⟩,
    ⟨"releaseGroup", "Release Group", "FraMeSToR, NTb, etc."⟩,
    ⟨"edition", "Edition", "Director's Cut, Extended, etc."⟩]

def presetTable : List (String × List String) :=
  [("resolution", ["720p", "1080p", "2160p", "4320p", "480p", "576p"]),
    ("hdr", ["HDR10", "HDR10Plus", "HDR10\\+", "Dolby.?Vision", "\\bDV\\b", "HLG"]),
    ("source", ["BluRay", "WEB-DL", "WEBRip", "HDTV", "REMUX", "DVD", "BR-DISK"]),
    ("audio", ["DTS-HD\\.MA", "TrueHD", "FLAC", "AAC", "DD\\+", "EAC3", "Atmos", "DTS-X"]),
    ("videoCodec", ["x264", "x265", "HEVC", "AVC", "H\\.264", "H\\.265", "VP9", "AV1"]),
    ("edition", ["Director.*Cut", "Extended", "Unrated", "IMAX", "Remastered", "Theatrical"])]

def field? (key : String) : Option Field :=
  fields.find? (·.key == key)

def isKnown (key : String) : Bool :=
  fields.any (·.key == key)

def presets (key : String) : List String :=
  (presetTable.lookup key).getD []

end Catalog
end ReleaseMatch
