import Mathlib.Tactic

namespace UnicodeCase

open List Bool

structure CaseRange where
  first : Nat
  count : Nat
  stride : Nat
  target : Nat

def CaseRange.maps (r : CaseRange) (n : Nat) : Bool :=
  decide (r.first ≤ n ∧ (n - r.first) % r.stride = 0 ∧ (n - r.first) / r.stride < r.count)

def mapCode (table : List CaseRange) (n : Nat) : Nat :=
  match table.find? (·.maps n) with
  | some r => r.target + (n - r.first)
  | none => n

def lowerRanges : List CaseRange :=
  [⟨192,23,1,224⟩,⟨216,7,1,248⟩,⟨256,24,2,257⟩,⟨304,1,2,105⟩,⟨306,3,2,307⟩,⟨313,8,2,314⟩,⟨330,23,2,
   331⟩,⟨376,1,2,255⟩,⟨377,3,2,378⟩,⟨385,1,2,595⟩,⟨386,2,2,387⟩,⟨390,1,2,596⟩,⟨391,1,2,392⟩,⟨393,2,
   1,598⟩,⟨395,1,2,396⟩,⟨398,1,2,477⟩,⟨399,1,2,601⟩,⟨400,1,2,603⟩,⟨401,1,2,402⟩,⟨403,1,2,608⟩,⟨404,
   1,2,611⟩,⟨406,1,2,617⟩,⟨407,1,2,616⟩,⟨408,1,2,409⟩,⟨412,1,2,623⟩,⟨413,1,2,626⟩,⟨415,1,2,629⟩,
   ⟨416,3,2,417⟩,⟨422,1,2,640⟩,⟨423,1,2,424⟩,⟨425,1,2,643⟩,⟨428,1,2,429⟩,⟨430,1,2,648⟩,⟨431,1,2,
   432⟩,⟨433,2,1,650⟩,⟨435,2,2,436⟩,⟨439,1,2,658⟩,⟨440,1,2,441⟩,⟨444,1,2,445⟩,⟨452,1,2,454⟩,⟨453,1,
   2,454⟩,⟨455,1,2,457⟩,⟨456,1,2,457⟩,⟨458,1,2,460⟩,⟨459,9,2,460⟩,⟨478,9,2,479⟩,⟨497,1,2,499⟩,⟨498,
   2,2,499⟩,⟨502,1,2,405⟩,⟨503,1,2,447⟩,⟨504,20,2,505⟩,⟨544,1,2,414⟩,⟨546,9,2,547⟩,⟨570,1,2,11365⟩,
   ⟨571,1,2,572⟩,⟨573,1,2,410⟩,⟨574,1,2,11366⟩,⟨577,1,2,578⟩,⟨579,1,2,384⟩,⟨580,1,2,649⟩,⟨581,1,2,
   652⟩,⟨582,5,2,583⟩,⟨880,2,2,881⟩,⟨886,1,2,887⟩,⟨895,1,2,1011⟩,⟨902,1,2,940⟩,⟨904,3,1,941⟩,⟨908,1,
   2,972⟩,⟨910,2,1,973⟩,⟨913,17,1,945⟩,⟨931,9,1,963⟩,⟨975,1,2,983⟩,⟨984,12,2,985⟩,⟨1012,1,2,952⟩,
   ⟨1015,1,2,1016⟩,⟨1017,1,2,1010⟩,⟨1018,1,2,1019⟩,⟨1021,3,1,891⟩,⟨1024,16,1,1104⟩,⟨1040,32,1,1072⟩,
   ⟨1120,17,2,1121⟩,⟨1162,27,2,1163⟩,⟨1216,1,2,1231⟩,⟨1217,7,2,1218⟩,⟨1232,48,2,1233⟩,⟨1329,38,1,
   1377⟩,⟨4256,38,1,11520⟩,⟨4295,1,2,11559⟩,⟨4301,1,2,11565⟩,⟨5024,80,1,43888⟩,⟨5104,6,1,5112⟩,
   ⟨7312,43,1,4304⟩,⟨7357,3,1,4349⟩,⟨7680,75,2,7681⟩,⟨7838,1,2,223⟩,⟨7840,48,2,7841⟩,⟨7944,8,1,
   7936⟩,⟨7960,6,1,7952⟩,⟨7976,8,1,7968⟩,⟨7992,8,1,7984⟩,⟨8008,6,1,8000⟩,⟨8025,4,2,8017⟩,⟨8040,8,1,
   8032⟩,⟨8072,8,1,8064⟩,⟨8088,8,1,8080⟩,⟨8104,8,1,8096⟩,⟨8120,2,1,8112⟩,⟨8122,2,1,8048⟩,⟨8124,1,2,
   8115⟩,⟨8136,4,1,8050⟩,⟨8140,1,2,8131⟩,⟨8152,2,1,8144⟩,⟨8154,2,1,8054⟩,⟨8168,2,1,8160⟩,⟨8170,2,1,
   8058⟩,⟨8172,1,2,8165⟩,⟨8184,2,1,8056⟩,⟨8186,2,1,8060⟩,⟨8188,1,2,8179⟩,⟨8486,1,2,969⟩,⟨8490,1,2,
   107⟩,⟨8491,1,2,229⟩,⟨8498,1,2,8526⟩,⟨8544,16,1,8560⟩,⟨8579,1,2,8580⟩,⟨9398,26,1,9424⟩,⟨11264,48,
   1,11312⟩,⟨11360,1,2,11361⟩,⟨11362,1,2,619⟩,⟨11363,1,2,7549⟩,⟨11364,1,2,637⟩,⟨11367,3,2,11368⟩,
   ⟨11373,1,2,593⟩,⟨11374,1,2,625⟩,⟨11375,1,2,592⟩,⟨11376,1,2,594⟩,⟨11378,1,2,11379⟩,⟨11381,1,2,
   11382⟩,⟨11390,2,1,575⟩,⟨11392,50,2,11393⟩,⟨11499,2,2,11500⟩,⟨11506,1,2,11507⟩,⟨42560,23,2,42561⟩,
   ⟨42624,14,2,42625⟩,⟨42786,7,2,42787⟩,⟨42802,31,2,42803⟩,⟨42873,2,2,42874⟩,⟨42877,1,2,7545⟩,
   ⟨42878,5,2,42879⟩,⟨42891,1,2,42892⟩,⟨42893,1,2,613⟩,⟨42896,2,2,42897⟩,⟨42902,10,2,42903⟩,⟨42922,
   1,2,614⟩,⟨42923,1,2,604⟩,⟨42924,1,2,609⟩,⟨42925,1,2,620⟩,⟨42926,1,2,618⟩,⟨42928,1,2,670⟩,⟨42929,
   1,2,647⟩,⟨42930,1,2,669⟩,⟨42931,1,2,43859⟩,⟨42932,8,2,42933⟩,⟨42948,1,2,42900⟩,⟨42949,1,2,642⟩,
   ⟨42950,1,2,7566⟩,⟨42951,2,2,42952⟩,⟨42960,1,2,42961⟩,⟨42966,2,2,42967⟩,⟨42997,1,2,42998⟩,⟨65313,
   26,1,65345⟩,⟨66560,40,1,66600⟩,⟨66736,36,1,66776⟩,⟨66928,11,1,66967⟩,⟨66940,15,1,66979⟩,⟨66956,7,
   1,66995⟩,⟨66964,2,1,67003⟩,⟨68736,51,1,68800⟩,⟨71840,32,1,71872⟩,⟨93760,32,1,93792⟩,⟨125184,34,1,
   125218⟩]

def upperRanges : List CaseRange :=
  [⟨181,1,2,924⟩,⟨224,23,1,192⟩,⟨248,7,1,216⟩,⟨255,1,2,376⟩,⟨257,24,2,256⟩,⟨305,1,2,73⟩,⟨307,3,2,
   306⟩,⟨314,8,2,313⟩,⟨331,23,2,330⟩,⟨378,3,2,377⟩,⟨383,1,2,83⟩,⟨384,1,2,579⟩,⟨387,2,2,386⟩,⟨392,1,
   2,391⟩,⟨396,1,2,395⟩,⟨402,1,2,401⟩,⟨405,1,2,502⟩,⟨409,1,2,408⟩,⟨410,1,2,573⟩,⟨414,1,2,544⟩,⟨417,
   3,2,416⟩,⟨424,1,2,423⟩,⟨429,1,2,428⟩,⟨432,1,2,431⟩,⟨436,2,2,435⟩,⟨441,1,2,440⟩,⟨445,1,2,444⟩,
   ⟨447,1,2,503⟩,⟨453,1,2,452⟩,⟨454,1,2,452⟩,⟨456,1,2,455⟩,⟨457,1,2,455⟩,⟨459,1,2,458⟩,⟨460,1,2,
   458⟩,⟨462,8,2,461⟩,⟨477,1,2,398⟩,⟨479,9,2,478⟩,⟨498,1,2,497⟩,⟨499,1,2,497⟩,⟨501,1,2,500⟩,⟨505,20,
   2,504⟩,⟨547,9,2,546⟩,⟨572,1,2,571⟩,⟨575,2,1,11390⟩,⟨578,1,2,577⟩,⟨583,5,2,582⟩,⟨592,1,2,11375⟩,
   ⟨593,1,2,11373⟩,⟨594,1,2,11376⟩,⟨595,1,2,385⟩,⟨596,1,2,390⟩,⟨598,2,1,393⟩,⟨601,1,2,399⟩,⟨603,1,2,
   400⟩,⟨604,1,2,42923⟩,⟨608,1,2,403⟩,⟨609,1,2,42924⟩,⟨611,1,2,404⟩,⟨613,1,2,42893⟩,⟨614,1,2,42922⟩,
   ⟨616,1,2,407⟩,⟨617,1,2,406⟩,⟨618,1,2,42926⟩,⟨619,1,2,11362⟩,⟨620,1,2,42925⟩,⟨623,1,2,412⟩,⟨625,1,
   2,11374⟩,⟨626,1,2,413⟩,⟨629,1,2,415⟩,⟨637,1,2,11364⟩,⟨640,1,2,422⟩,⟨642,1,2,42949⟩,⟨643,1,2,425⟩,
   ⟨647,1,2,42929⟩,⟨648,1,2,430⟩,⟨649,1,2,580⟩,⟨650,2,1,433⟩,⟨652,1,2,581⟩,⟨658,1,2,439⟩,⟨669,1,2,
   42930⟩,⟨670,1,2,42928⟩,⟨837,1,2,921⟩,⟨881,2,2,880⟩,⟨887,1,2,886⟩,⟨891,3,1,1021⟩,⟨940,1,2,902⟩,
   ⟨941,3,1,904⟩,⟨945,17,1,913⟩,⟨962,1,2,931⟩,⟨963,9,1,931⟩,⟨972,1,2,908⟩,⟨973,2,1,910⟩,⟨976,1,2,
   914⟩,⟨977,1,2,920⟩,⟨981,1,2,934⟩,⟨982,1,2,928⟩,⟨983,1,2,975⟩,⟨985,12,2,984⟩,⟨1008,1,2,922⟩,⟨1009,
   1,2,929⟩,⟨1010,1,2,1017⟩,⟨1011,1,2,895⟩,⟨1013,1,2,917⟩,⟨1016,1,2,1015⟩,⟨1019,1,2,1018⟩,⟨1072,32,
   1,1040⟩,⟨1104,16,1,1024⟩,⟨1121,17,2,1120⟩,⟨1163,27,2,1162⟩,⟨1218,7,2,1217⟩,⟨1231,1,2,1216⟩,⟨1233,
   48,2,1232⟩,⟨1377,38,1,1329⟩,⟨4304,43,1,7312⟩,⟨4349,3,1,7357⟩,⟨5112,6,1,5104⟩,⟨7296,1,2,1042⟩,
   ⟨7297,1,2,1044⟩,⟨7298,1,2,1054⟩,⟨7299,2,1,1057⟩,⟨7301,1,2,1058⟩,⟨7302,1,2,1066⟩,⟨7303,1,2,1122⟩,
   ⟨7304,1,2,42570⟩,⟨7545,1,2,42877⟩,⟨7549,1,2,11363⟩,⟨7566,1,2,42950⟩,⟨7681,75,2,7680⟩,⟨7835,1,2,
   7776⟩,⟨7841,48,2,7840⟩,⟨7936,8,1,7944⟩,⟨7952,6,1,7960⟩,⟨7968,8,1,7976⟩,⟨7984,8,1,7992⟩,⟨8000,6,1,
   8008⟩,⟨8017,4,2,8025⟩,⟨8032,8,1,8040⟩,⟨8048,2,1,8122⟩,⟨8050,4,1,8136⟩,⟨8054,2,1,8154⟩,⟨8056,2,1,
   8184⟩,⟨8058,2,1,8170⟩,⟨8060,2,1,8186⟩,⟨8064,8,1,8072⟩,⟨8080,8,1,8088⟩,⟨8096,8,1,8104⟩,⟨8112,2,1,
   8120⟩,⟨8115,1,2,8124⟩,⟨8126,1,2,921⟩,⟨8131,1,2,8140⟩,⟨8144,2,1,8152⟩,⟨8160,2,1,8168⟩,⟨8165,1,2,
   8172⟩,⟨8179,1,2,8188⟩,⟨8526,1,2,8498⟩,⟨8560,16,1,8544⟩,⟨8580,1,2,8579⟩,⟨9424,26,1,9398⟩,⟨11312,
   48,1,11264⟩,⟨11361,1,2,11360⟩,⟨11365,1,2,570⟩,⟨11366,1,2,574⟩,⟨11368,3,2,11367⟩,⟨11379,1,2,
   11378⟩,⟨11382,1,2,11381⟩,⟨11393,50,2,11392⟩,⟨11500,2,2,11499⟩,⟨11507,1,2,11506⟩,⟨11520,38,1,
   4256⟩,⟨11559,1,2,4295⟩,⟨11565,1,2,4301⟩,⟨42561,23,2,42560⟩,⟨42625,14,2,42624⟩,⟨42787,7,2,42786⟩,
   ⟨42803,31,2,42802⟩,⟨42874,2,2,42873⟩,⟨42879,5,2,42878⟩,⟨42892,1,2,42891⟩,⟨42897,2,2,42896⟩,
   ⟨42900,1,2,42948⟩,⟨42903,10,2,42902⟩,⟨42933,8,2,42932⟩,⟨42952,2,2,42951⟩,⟨42961,1,2,42960⟩,
   ⟨42967,2,2,42966⟩,⟨42998,1,2,42997⟩,⟨43859,1,2,42931⟩,⟨43888,80,1,5024⟩,⟨65345,26,1,65313⟩,
   ⟨66600,40,1,66560⟩,⟨66776,36,1,66736⟩,⟨66967,11,1,66928⟩,⟨66979,15,1,66940⟩,⟨66995,7,1,66956⟩,
   ⟨67003,2,1,66964⟩,⟨68800,51,1,68736⟩,⟨71872,32,1,71840⟩,⟨93792,32,1,93760⟩,⟨125218,34,1,125184⟩]

def specialUpper : List (Nat × List Nat) :=
  [(223, [83,83]),(329, [700,78]),(496, [74,780]),(912, [921,776,769]),(944, [933,776,769]),(1415,
   [1333,1362]),(7830, [72,817]),(7831, [84,776]),(7832, [87,778]),(7833, [89,778]),(7834, [65,
   702]),(8016, [933,787]),(8018, [933,787,768]),(8020, [933,787,769]),(8022, [933,787,834]),(8064,
   [7944,921]),(8065, [7945,921]),(8066, [7946,921]),(8067, [7947,921]),(8068, [7948,921]),(8069,
   [7949,921]),(8070, [7950,921]),(8071, [7951,921]),(8072, [7944,921]),(8073, [7945,921]),(8074,
   [7946,921]),(8075, [7947,921]),(8076, [7948,921]),(8077, [7949,921]),(8078, [7950,921]),(8079,
   [7951,921]),(8080, [7976,921]),(8081, [7977,921]),(8082, [7978,921]),(8083, [7979,921]),(8084,
   [7980,921]),(8085, [7981,921]),(8086, [7982,921]),(8087, [7983,921]),(8088, [7976,921]),(8089,
   [7977,921]),(8090, [7978,921]),(8091, [7979,921]),(8092, [7980,921]),(8093, [7981,921]),(8094,
   [7982,921]),(8095, [7983,921]),(8096, [8040,921]),(8097, [8041,921]),(8098, [8042,921]),(8099,
   [8043,921]),(8100, [8044,921]),(8101, [8045,921]),(8102, [8046,921]),(8103, [8047,921]),(8104,
   [8040,921]),(8105, [8041,921]),(8106, [8042,921]),(8107, [8043,921]),(8108, [8044,921]),(8109,
   [8045,921]),(8110, [8046,921]),(8111, [8047,921]),(8114, [8122,921]),(8115, [913,921]),(8116,
   [902,921]),(8118, [913,834]),(8119, [913,834,921]),(8124, [913,921]),(8130, [8138,921]),(8131,
   [919,921]),(8132, [905,921]),(8134, [919,834]),(8135, [919,834,921]),(8140, [919,921]),(8146,
   [921,776,768]),(8147, [921,776,769]),(8150, [921,834]),(8151, [921,776,834]),(8162, [933,776,
   768]),(8163, [933,776,769]),(8164, [929,787]),(8166, [933,834]),(8167, [933,776,834]),(8178,
   [8186,921]),(8179, [937,921]),(8180, [911,921]),(8182, [937,834]),(8183, [937,834,921]),(8188,
   [937,921]),(64256, [70,70]),(64257, [70,73]),(64258, [70,76]),(64259, [70,70,73]),(64260, [70,70,
   76]),(64261, [83,84]),(64262, [83,84]),(64275, [1348,1350]),(64276, [1348,1333]),(64277, [1348,
   1339]),(64278, [1358,1350]),(64279, [1348,1341])]

def simpleUpper (c : Char) : Char :=
  if 'a' ≤ c ∧ c ≤ 'z' then Char.ofNat (c.toNat - 32)
  else if c.toNat < 128 then c
  else Char.ofNat (mapCode upperRanges c.toNat)

def fullUpper (c : Char) : List Char :=
  match specialUpper.find? (·.1 = c.toNat) with
  | some e => e.2.map Char.ofNat
  | none => [simpleUpper c]

def CaseRange.span (r : CaseRange) : Nat := (r.count - 1) * r.stride

def CaseRange.apart (r s : CaseRange) : Bool :=
  Nat.blt (r.target + r.span) s.first || Nat.blt (s.first + s.span) r.target ||
    (Nat.beq r.stride 2 && Nat.beq s.stride 2 && Nat.beq ((r.target + s.first) % 2) 1)

def CaseRange.omits (r : CaseRange) (n : Nat) : Bool :=
  (Nat.blt n r.first || Nat.blt (r.first + r.span) n) &&
    (Nat.blt n r.target || Nat.blt (r.target + r.span) n)

variable {r : CaseRange} {n : Nat}

theorem CaseRange.maps_iff : r.maps n = true ↔
      r.first ≤ n ∧ (n - r.first) % r.stride = 0 ∧ (n - r.first) / r.stride < r.count := by
  simp [CaseRange.maps]

theorem CaseRange.le_span (h : r.maps n = true) : n - r.first ≤ r.span := by
  obtain ⟨_,hmod,hcount⟩ := r.maps_iff.mp h
  have hdiv : (n - r.first) / r.stride ≤ r.count - 1 := by omega
  calc n - r.first = (n - r.first) / r.stride * r.stride := by
        rw [Nat.div_mul_cancel (Nat.dvd_of_mod_eq_zero hmod)]
    _ ≤ (r.count - 1) * r.stride := Nat.mul_le_mul_right _ hdiv

theorem CaseRange.maps_apart {s : CaseRange} (h : r.apart s = true) (hr : r.maps n = true) :
    s.maps (r.target + (n - r.first)) = false := by
  rw [eq_false_iff]
  intro hs
  have hspan := CaseRange.le_span hr
  have hspan' := CaseRange.le_span hs
  obtain ⟨_,hmod,_⟩ := r.maps_iff.mp hr
  obtain ⟨hle,hmod',_⟩ := s.maps_iff.mp hs
  simp only [CaseRange.apart,or_eq_true,and_eq_true,Nat.blt_eq,Nat.beq_eq] at h
  rcases h with (h | h) | ⟨⟨h2,h2'⟩,hodd⟩
  · omega
  · omega
  · rw [h2] at hmod
    rw [h2'] at hmod'
    omega

variable {table : List CaseRange}

theorem mapCode_eq_self (h : ∀ r ∈ table, r.maps n = false) : mapCode table n = n := by
  have hnone : table.find? (·.maps n) = none := by
    rw [find?_eq_none]
    intro r hr
    simp [h r hr]
  rw [mapCode,hnone]

theorem mapCode_cases (table : List CaseRange) (n : Nat) : mapCode table n = n ∨
      ∃ r ∈ table, r.maps n = true ∧ mapCode table n = r.target + (n - r.first) := by
  rw [mapCode]
  split
  · next r hr =>
    exact .inr ⟨r,mem_of_find?_eq_some hr,by simpa using find?_some hr,rfl⟩
  · exact .inl rfl

theorem mapCode_idem (h : table.all (fun r => table.all r.apart) = true) (n : Nat) :
    mapCode table (mapCode table n) = mapCode table n := by
  rcases mapCode_cases table n with heq | ⟨r,hr,hmaps,heq⟩
  · rw [heq,heq]
  rw [heq]
  apply mapCode_eq_self
  intro s hs
  exact CaseRange.maps_apart (all_eq_true.mp (all_eq_true.mp h r hr) s hs) hmaps

theorem CaseRange.ne_of_omits {k : Nat} (h : r.omits k = true) (hn : r.maps n = true) :
    n ≠ k ∧ r.target + (n - r.first) ≠ k := by
  have hspan := CaseRange.le_span hn
  obtain ⟨hle,_,_⟩ := r.maps_iff.mp hn
  simp only [CaseRange.omits,or_eq_true,and_eq_true,Nat.blt_eq] at h
  omega

theorem mapCode_mem_iff {ks : List Nat}
    (h : ks.all (fun k => table.all fun r => r.omits k) = true) (n : Nat) :
    mapCode table n ∈ ks ↔ n ∈ ks := by
  rcases mapCode_cases table n with heq | ⟨r,hr,hmaps,heq⟩
  · rw [heq]
  have hne : ∀ k ∈ ks, n ≠ k ∧ r.target + (n - r.first) ≠ k := fun k hk =>
    CaseRange.ne_of_omits (all_eq_true.mp (all_eq_true.mp h k hk) r hr) hmaps
  rw [heq]
  exact ⟨fun h => absurd rfl (hne _ h).2,fun h => absurd rfl (hne _ h).1⟩

def CaseRange.scalar (r : CaseRange) : Bool :=
  Nat.blt (r.target + r.span) 0xD800 ||
    (Nat.blt 0xDFFF r.target && Nat.blt (r.target + r.span) 0x110000)

theorem mapCode_isValidChar (h : table.all CaseRange.scalar = true) (hn : n.isValidChar) :
    (mapCode table n).isValidChar := by
  rcases mapCode_cases table n with heq | ⟨r,hr,hmaps,heq⟩
  · rwa [heq]
  have hspan := CaseRange.le_span hmaps
  have hscalar := all_eq_true.mp h r hr
  simp only [CaseRange.scalar,or_eq_true,and_eq_true,Nat.blt_eq] at hscalar
  rw [heq]
  unfold Nat.isValidChar
  omega

theorem lowerRanges_scalar : lowerRanges.all CaseRange.scalar = true := by decide +kernel

theorem lowerRanges_apart : lowerRanges.all (fun r => lowerRanges.all r.apart) = true := by
  decide +kernel

end UnicodeCase
