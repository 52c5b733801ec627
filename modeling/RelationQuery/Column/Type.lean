/-!
# Column types

The types of the server that a column or a parameter may have. A scalar type whose values have a
form of their own is a constructor; every other one is known by its name and number in the
catalogue. An array type is known by the type of its elements.
-/

namespace RelationQuery

inductive ScalarType where
  | bool
  | bytea
  | name
  | int8
  | int2
  | int4
  | text
  | json
  | float4
  | float8
  | bpchar
  | varchar
  | date
  | timestamp
  | timestamptz
  | numeric
  | uuid
  | jsonb
  | other (name : String) (oid : Nat)
  deriving DecidableEq, Repr

namespace ScalarType

/-- Name and number in the catalogue. -/
def catalogued : ScalarType → String × Nat
  | .bool => ("bool", 16)
  | .bytea => ("bytea", 17)
  | .name => ("name", 19)
  | .int8 => ("int8", 20)
  | .int2 => ("int2", 21)
  | .int4 => ("int4", 23)
  | .text => ("text", 25)
  | .json => ("json", 114)
  | .float4 => ("float4", 700)
  | .float8 => ("float8", 701)
  | .bpchar => ("bpchar", 1042)
  | .varchar => ("varchar", 1043)
  | .date => ("date", 1082)
  | .timestamp => ("timestamp", 1114)
  | .timestamptz => ("timestamptz", 1184)
  | .numeric => ("numeric", 1700)
  | .uuid => ("uuid", 2950)
  | .jsonb => ("jsonb", 3802)
  | .other word number => (word, number)

def label (type : ScalarType) : String := type.catalogued.1

def oid (type : ScalarType) : Nat := type.catalogued.2

/-- The types with a form of their own. -/
def formed : List ScalarType :=
  [.bool, .bytea, .name, .int8, .int2, .int4, .text, .json, .float4, .float8, .bpchar, .varchar,
    .date, .timestamp, .timestamptz, .numeric, .uuid, .jsonb]

def others : List (String × Nat) :=
  [("char", 18), ("regproc", 24), ("oid", 26), ("tid", 27), ("xid", 28), ("cid", 29),
    ("pg_ddl_command", 32), ("xml", 142), ("pg_node_tree", 194), ("table_am_handler", 269),
    ("index_am_handler", 325), ("point", 600), ("lseg", 601), ("path", 602), ("box", 603),
    ("polygon", 604), ("line", 628), ("cidr", 650), ("unknown", 705), ("circle", 718),
    ("macaddr8", 774), ("money", 790), ("macaddr", 829), ("inet", 869), ("aclitem", 1033),
    ("time", 1083), ("interval", 1186), ("timetz", 1266), ("bit", 1560), ("varbit", 1562),
    ("refcursor", 1790), ("regprocedure", 2202), ("regoper", 2203), ("regoperator", 2204),
    ("regclass", 2205), ("regtype", 2206), ("record", 2249), ("cstring", 2275), ("any", 2276),
    ("anyarray", 2277), ("void", 2278), ("trigger", 2279), ("language_handler", 2280),
    ("internal", 2281), ("anyelement", 2283), ("_record", 2287), ("anynonarray", 2776),
    ("txid_snapshot", 2970), ("fdw_handler", 3115), ("pg_lsn", 3220), ("tsm_handler", 3310),
    ("pg_ndistinct", 3361), ("pg_dependencies", 3402), ("anyenum", 3500), ("tsvector", 3614),
    ("tsquery", 3615), ("gtsvector", 3642), ("regconfig", 3734), ("regdictionary", 3769),
    ("anyrange", 3831), ("event_trigger", 3838), ("int4range", 3904), ("numrange", 3906),
    ("tsrange", 3908), ("tstzrange", 3910), ("daterange", 3912), ("int8range", 3926),
    ("jsonpath", 4072), ("regnamespace", 4089), ("regrole", 4096), ("regcollation", 4191),
    ("int4multirange", 4451), ("nummultirange", 4532), ("tsmultirange", 4533),
    ("tstzmultirange", 4534), ("datemultirange", 4535), ("int8multirange", 4536),
    ("anymultirange", 4537), ("anycompatiblemultirange", 4538),
    ("pg_brin_bloom_summary", 4600), ("pg_brin_minmax_multi_summary", 4601),
    ("pg_mcv_list", 5017), ("pg_snapshot", 5038), ("xid8", 5069), ("anycompatible", 5077),
    ("anycompatiblearray", 5078), ("anycompatiblenonarray", 5079), ("anycompatiblerange", 5080)]

def ofName? (name : String) : Option ScalarType :=
  formed.find? (fun type => type.label == name) <|>
    (others.find? (fun entry => entry.1 == name)).map fun entry => .other entry.1 entry.2

end ScalarType

inductive ColumnType where
  | scalar (type : ScalarType)
  | array (element : ScalarType)
  /-- An array whose indices start at zero. -/
  | vector (element : ScalarType)
  deriving DecidableEq, Repr

namespace ColumnType

def name : ColumnType → String
  | .scalar type => type.label
  | .array element => "_" ++ element.label
  | .vector element => element.label ++ "vector"

def lowerBound : ColumnType → Int
  | .vector _ => 0
  | _ => 1

def ofName? (name : String) : Option ColumnType :=
  match ScalarType.ofName? name with
  | some type => some (.scalar type)
  | none =>
      if name == "int2vector" then some (.vector .int2)
      else if name == "oidvector" then some (.vector (.other "oid" 26))
      else match name.toList with
        | '_' :: element => (ScalarType.ofName? (String.ofList element)).map .array
        | _ => none

end ColumnType

end RelationQuery
