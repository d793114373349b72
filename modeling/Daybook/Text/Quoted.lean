import Daybook.Text.Table

/-!
# Quoted text

Messages show a text between quotes, with everything escaped that would not be seen.

* `isVisible`: characters that are shown as they are.
* `quoted`: a text between quotes; single ones, unless the text has a single quote and no double
  one.
* `quotedPlainly`: the same with every character beyond ASCII escaped.
* `quotedOr`: the same for a text that may be missing.
-/

namespace Daybook.Text

/-- Ranges of the characters beyond ASCII that are shown as they are. -/
def visibleRanges : PackedTable where
  bits := 21
  width := 2
  rows := 699
  words := #[
    0x2ab0014c400a5e003a3001d0800e38007180038c001c5000e10006fe0037a001bb8002b800158000a1,
    0x386801b7800db80061d0030d80181800be8005ef002f500174000b8e00591002c780163400b1400559,
    0x435002180010bc0085e0042d8021000107c0083000416801ff400ff4007c0003d8801d3400e9400710,
    0x4d90026c801360009aa004d400264c013200098f004c600261401306008e3004708022600111c00870,
    0x4ff002798013c6009df004ee802770013ae009d7004e700272c01390009c7004e20026f001372009b6,
    0x51c8028e00146c00a35005198028c80146000a2a0051400284c0142000a0f005050028140140600a01,
    0x53b002998014bc00a5e0052e002964014a200a510052680292c0149000a47005210028f80147800a3c,
    0x562802af00157200ab500559802ac80156000aaa00554002a4c0152200a8f00546802a140150600a81,
    0x586002c140160600b010057f802be4015e200ae600571802b80015a000ad000566802b2c0159200ac7,
    0x5a6802d2c0169000b47005a2002cf00167200b3500599802cc80166000b2a00594002c4c0162000b0f,
    0x5ca802e480172000b8e005c5002e140170600b82005bb802d98016c600b5f005ae802d70016ae00b55,
    0x5e4002f180178400bbe005dc802eb80175400ba8005d2002e8c0173e00b9e005ce002e700173400b99,
    0x61c8030a80185000c12006080030380181800c00005fd002f98017ae00bd7005e8002f400179a00bca,
    0x637803198018c600c600062e803174018b400c580062b0031540189a00c4a006240031180188800c3c,
    0x6668033280199000cc6006620032f00197200cb5006598032a80195000c92006480032380191800c77,
    0x6a200344801a2000d0e00686003400019e400cf100677803398019c600ce00066f003374019ac00cd5,
    0x6dd8036cc01b6200d9a006cb00361401b0600d81006bf80359801ac600d54006a780352801a9000d46,
    0x6fa0037c801bde00de6006ef80376001bac00dd6006ea00373c01b9400dca006e300370001b7a00dbd,
    0x75e803a9c01d4a00ea500751803a3001d1400e8600742003a1001d0400e810072d8038fc01c7400e01,
    0x7cb803dc401ed800f49007a3803c0001dbe00edc0076c803b4001d9a00ec800763003b1801d8800ec0,
    0x92680492802490010d0008668043340218e010c70086280400001fb400fce007e6003ef801f7800f99,
    0x95f004ae00256a012b200958004a400251a0128a00944004980024ba0125a0092c004960024ac01250,
    0x9cc804e00026f80135d009ad004c600262a0131200988004b60025ac012c800962804b0802580012c0,
    0xba9805d0002e6c0171f00b8a805c0002df0016a000b4e005a0402cfe01400009fe804fe0027ea013a0,
    0xc0c80603c0301a0180000bfc805fc002fd2017e000bee805e0002ee60177200bb8005db802ed801760,
    0xcb6806510032800194000c9d8064c0032560192000c8f006400031ea018b000c55006200030f001820,
    0xd448069fc034f801a6000d2f00687803436019de00ced00674003392019b000cd5806600032e801970,
    0xe248070ec0386e01bfc00df9806e00036fc01b5000da6006c000359c01ab000d56806a800353201a90,
    0xfa6807d2003e8a01f2000f8e807c6003e2a01d0000e7d0073400398e01cbd00e5d0072400391001c4d,
    0xfe9807f1803f8801fb600fda007e0003efa01f5f00fae807d7403eb601f5b00fac807d6403eae01f50,
    0x10470081d0040e2020700102f0080c00404e0201000fff007fd803fe801ff200ff7807f7403fb601fd6,
    0x15ca80add8056e602460012250091000484c02190010c5808400041e0020d0010600082800413802090,
    0x16d300b68005b2c02d7f016b800b5bc05ace02d300169680b4b405a4e02d270169280b3e4059e602b97,
    0x172e80b78005bbc02dd8016eb00b74005b9c02dc8016e300b70005b7c02db8016db00b6c005b5c02da8,
    0x189780c414061fe030990184b00c1040607e03001017fd80bfc005faa02f000177980ba6c05d3202e80,
    0x53e5029c0014dee0a640053158293401498c0a4900524600c8800643c031f0018f180c6400631c03131,
    0x546c82a3381518a0a8800543b82a100150720a83005416029fc814fb20a7d5053e9829f4c14fa20a7d0,
    0x552c82a9401549a0aa400551b02a800153fc0a9de054ec82a73c1539a0a980054be02a57c152a60a8e0,
    0x55b582acc01565c0ab280559302ac801562c0ab110558702ac241560c0ab010557b02ab6c155840aa5c,
    0x7d8303ec001f5b20fa7007d3683e4001aff60d7cb06be3035ec01af460ac00055fc82afc0157da0ab70,
    0x7ec783ef4c1f7840fb4607da203ed0c1f6820fb4007d9f03ecf81f6780fb3807d9b03ec741f62e0fb13,
    0x7f7e03f9d81fce80fe7007f3583f9a01fccc0fe5407f2903f8801fc320fdf007ee783f73c1fb8e0fd92,
    0x7ffe83fff01ffdc0ffe807ff303ff801ffb80ffda07feb83ff481ff9e0ffca07fe383ff081ff7c0ff01,
    0x8081040400201f4100800802e8401402009a1003f0801e8400f02007410028080130400342001610000,
    0x817d840b80205a0102a00814e040a00203fa101d0080d00406802033810190080c70404dc2026610107,
    0x82548412802093a10400081ea840f20207861039f081ce840e00206f410350081a5040cb42064610300,
    0x82ca84165020b241058c082c50415f020af41056f082b18414c020a4e105000827d841360209a6104b0,
    0x83c2841e0020ece10760083aa841d0020e6c10600082de0416ec20b72105b3082d884168c20b4210597,
    0x842a8420fc210781083c0841c0420dc2106a1080a084040420202100a10800083dd041ec820f6010787,
    0x84db8426002127e1093f0849c84247c21236108fb0847a8423d0211e4108e00845784229c2113c10857,
    0x85240428fc2147410a380851a8428642142e10a15085098428302140c10a05085018427482139e109bc,
    0x85c8842de0216e410b58085aa842ce42166a10b000857b042bac215cc10ac00854f842980214b010a50,
    0x873f04398021a7210d30086938433e8219e410cc0086590432002189010c00085d7842ea42173810b99,
    0x87fb043f8021f9610fb0087c4843dc021eb210f3008793843c0021d6210eb008756843aac21d5210e80,
    0x88a38444d822268111000887c8443c0221d0110d0088610442f8221781107f0883a8441482209a11000,
    0x8946844a28225101128808943044a002247c1121308908844800223e8111e1088ef844600222ec11150,
    0x8994044c4c226201130f08986044c1422606113000897c844bc0225d4112b008954844a7c2253a1128f,
    0x89ab844d5c226a011350089a6844d2c2269011347089a2044cec226721133508999844cc8226601132a,
    0x8ada845600229b2114d008a63845200228c21145d08a2d845000226e811370089b6044d98226c61135d,
    0x8b95845c7422e341170008b64845b0022d721168008b3604598022cb21165008b2204580022bba115b8,
    0x8c9a8464602322c1191508c89846430232121190908c830463fc231e4118a008c1d84600022e8c11730,
    0x8d510469402348e11a0008cf2046768233ae119aa08cd3846680232b21195008ca30464ec2327011937,
    0x8e5b0472a42394e11c9208e478471c0238d811c5008e228470e02386c11c0a08e04047000235f011ab0,
    0x8eb284758023ab211d5008ea38474fc23a7a11d3c08e9d0474e823a6c11d0b08e8484742023a0c11d00,
    0x8ff8847f0023f6011fb008f7c047b8023b5211da008ecc04764c23b2211d9008ec70475a823ad011d67,
    0xb51c05a00028c8c1440009a1704c00025fe412f90092a1849200248e812470092370490002473211fff,
    0xb5ac85ad402d68a16b000b57a85abc02d5da16ad00b56485ab002d57c16a6e0b53485a9802d4bc16a40,
    0xb7f205bf802df3e16f8f0b7c385bd3c2de9416f000b74d05b9002d71e16b7d0b5bb85ad8c2d6c216b5b,
    0xd89106c00035ffc1affd0d7fd86bfd435fe61aff00c684063400319aa188000c3fb85c0002dfe216ff0,
    0xde4f86f270379321bc900de4406f200378f81bc700de3506f000365f61b1700d8b386c590362a41b150,
    0xe9228748003a3d41d17b0e8b90744a43a24c1d1000e87a87400039f861cf500e7a3073cc039e5a1cf00,
    0xea530752943a9441d4a20ea4f8752783a9381d4560ea2a0750003a6f01d3600e9ab074c003a5e61d2e0,
    0xea8e0754583aa281d50d0ea8507541c3aa0a1d4c50ea618752f43a9761d4bb0ea5c8752b83a9581d4a9,
    0xed45875f383af961d6a80eb528755483aaa01d54a0eaa30755183aa881d5400ea9f0754ec3aa721d51e,
    0xf0150780983c0481e0230f01087806c3c0301e0080f0030780003be3c1df000ed57876a843b53e1da9b,
    0xf3f3079f803c5fe1e2ff0f17c878b003c55c1e2900f0a78785383c2921e1400f09e8784c03c2581e100,
    0xf4af87a5783d2b21e9500f4a587a4003d1ac1e8c70f46207a0003cffc1e7f00f3f7079fb43cfd61e7e8,
    0xf71907b8a43dc4e1ee270f71207b8903dc441ee210f70f87b8143dc061ee000f69e87b4043d9681ec71,
    0xf72787b9343dc961ee4b0f72487b9243dc8e1ee470f72107b9083dc761ee3b0f71c87b8e43dc6e1ee34,
    0xf73107b9843dcbe1ee5f0f72e87b9743dcb61ee5b0f72c87b9643dcae1ee570f72a07b9503dca41ee51,
    0xf74d87ba2c3dd121ee800f73f07b9f83dcf81ee790f73b87b9d03dce41ee6c0f73507b99c3dcc81ee64,
    0xf85f87c2c43e15c1f0a00f84987c0c03e0561f0000f77887bbc03dd761eeab0f75487ba943dd461eea1,
    0xf93287c9803e4a21f2500f92407c9003e4761f2100f90107c7983e35a1f1000f87a87c3443e19e1f0c1,
    0xfc0587e0003efe01f7f00fbf587df803efb01f7800fbb987dc003edf81f6f00fb7607db743edae1f300,
    0xfd3a07e9c03f4da1fa600fd2987e4003f1621f8b00fc5687e2403f10e1f8600fc2c87e1403f08e1f810,
    0xfd7b07ebc03f5ce1fae00fd6c87eb403f58a1fac00fd5d07eac03f5581fa900fd4307ea003f4f81fa78,
    0x175f00b3ac059d422b82015c0e8add0056e702a7001536f8800003f7f21fbf00fde507ee503f7241fb00,
    0x1c03dee0100189a50c00005f43a2f800]

/-- Whether a character is shown as it is. -/
def isVisible (c : Char) : Bool :=
  if c.toNat < 128 then 32 ≤ c.toNat && c.toNat < 127 else visibleRanges.covers c.toNat

/-- The lower-case hexadecimal digits of a number, filled with zeros to a width. -/
def hexDigits (width n : Nat) : List Char :=
  let ds := Nat.toDigits 16 n
  List.replicate (width - ds.length) '0' ++ ds

/-- The code of a character, behind a backslash. -/
def escapedChar (c : Char) : List Char :=
  if c.toNat < 0x100 then '\\' :: 'x' :: hexDigits 2 c.toNat
  else if c.toNat < 0x10000 then '\\' :: 'u' :: hexDigits 4 c.toNat
  else '\\' :: 'U' :: hexDigits 8 c.toNat

/-- A character inside quotes of the kind `quote`. -/
def quotedChar (quote c : Char) : List Char :=
  if c = quote ∨ c = '\\' then ['\\', c]
  else if c = '\n' then ['\\', 'n']
  else if c = '\r' then ['\\', 'r']
  else if c = '\t' then ['\\', 't']
  else if isVisible c then [c]
  else escapedChar c

/-- The quote that a text is put between. -/
def quoteFor (cs : List Char) : Char :=
  if cs.contains '\'' && !cs.contains '"' then '"' else '\''

/-- A text between quotes. -/
def quoted (s : String) : String :=
  let cs := s.toList
  let quote := quoteFor cs
  String.ofList (quote :: cs.flatMap (quotedChar quote) ++ [quote])

/-- A text between quotes, in ASCII characters only. -/
def quotedPlainly (s : String) : String :=
  String.ofList ((quoted s).toList.flatMap fun c => if c.toNat < 128 then [c] else escapedChar c)

/-- A text between quotes, or the word for a missing one. -/
def quotedOr (missing : String) : Option String → String
  | none => missing
  | some s => quoted s

end Daybook.Text
