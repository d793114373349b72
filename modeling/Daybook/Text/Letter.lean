import Daybook.Text.Digit

/-!
# Letters, numerals and word characters

* `isLetter`: characters that are letters in some script.
* `isAlphanumeric`: letters, decimal digits and the other numerals.
* `isWord`: alphanumeric characters and the underscore, the characters of a tag key.
-/

namespace Daybook.Text

/-- Ranges of the letters beyond ASCII. -/
def letterRanges : PackedTable where
  bits := 21
  width := 2
  rows := 646
  words := #[
    0x172000b80005a2002c6001608003e0001ec000d80006b00030000174000ba0005a8002d400154000aa,
    0x1c5000e200070c00386001bf800dfc006fa0037a001bb800dd8006e80037000177000bb8005d8002ec,
    0x2c400158000ab200559002ab0014c400a5e0048a00240800fdc007ea003a3001d0800e38007180038c,
    0x377801bb800dcc006e50036a801b5400da600671003378019b800c9400620002f90017bc00bd4005d0,
    0x3fa801fd000fd4007ca003d8801ec400f4a0074d00397801c4800e20007100037f801bfc00df8006fa,
    0x4438021c0010d4008600042c002100010500082800412002090010340081a0040a80200000ff4007fa,
    0x4c60026140130000971004b0802560012a0009500049e8024f40127200904004648022800111c00889,
    0x4ee8027700139c009ce004de8026f401372009b6004d90026c801360009aa004d400264c013200098f,
    0x5198028c80146000a2a0051400284c0142000a0f00505002814013f8009fc004f88027c0013c2009df,
    0x554002a4c0152200a8f00546802a14014e800a720052f002978014b800a590051c8028e00146c00a35,
    0x586002c14015f200af900570802b80015a000ad00055e802af40157200ab500559802ac80156000aaa,
    0x5b0802d7c016ba00b5c0059e802cf40167200b3500599802cc80166000b2a00594002c4c0162000b0f,
    0x5cf802e780173800b9c005cd002e640172a00b92005c8002e380171400b85005c1802e0c016e200b71,
    0x61c8030a80185000c12006080030380181800c05005e8002f400177200bae005d5002ea00174800ba3,
    0x6540032480192000c8e006460032140190000c8000630803180018ba00c5d0062d0031600187a00c3d,
    0x68800343801a1800d04006790033c4019c200ce00066f0033740197a00cbd0065c8032d40196600caa,
    0x6d880366801b2c00d85006bf8035e801ac200d5f006ab00355001a9c00d4e0069e8034f401a7400d12,
    0x742003a1001d0400e810072300390001c6600e320071800380401b8c00dc0006de8036f401b7600db3,
    0x763003b1801d8800ec00075e803af401d6600eb200758003a9c01d4a00ea500751803a3001d1400e86,
    0x82a8041400207e0103f0081500400001f1800f88007b6003d2401e8e00f4000780003c0001dbe00edc,
    0x86380431c0218a010a0008470042380210201075008380041b8020cc0106500830804184020ba0105a,
    0x944004980024ba0125a0092c004960024ac012500092680492802490010fc0087d0043400219a010cd,
    0x988004b60025ac012c800962804b0802580012c00095f004ae00256a012b200958004a400251a0128a,
    0xb4d005a0402cfe0166f00b36005004027fa013f8009fa804e800271e01380009ad004c600262a01312,
    0xbd9805e0002ee00176e00bb6005d8002ea20174000b98805c7c02e220170000b7c005bc402dd4016a0,
    0xc8f006400031ea018b000c550062a8031500188700c42006200030f00182000bee005f7002fae017d7,
    0xd99806c140354e01aa700d2a0068800342c01a0000ce48066c0033560198000cba0065c0032da01950,
    0xe44007200038fa01c5a00e278071340384601c0000df2806ee80375e01bae00dd0006e0c0369801b45,
    0xf8a80780003b7e01d0000e7d0073e8039ec01cf500e798073b8039d801ce900e5f8072f40397401c90,
    0xfbe807d7c03eba01f5d00fad807d6c03eb201f5900fab807d4003e9a01f4800fa2807c8003e3a01f18,
    0xff6007f8003fb601fd600fe9807f4003f9801fc600fe2007f0803f7c01fbe00fde007ed803f6801f80,
    0x10898084280420e021070108100840804138020900103f8081fc040e20207100ffe007fd803fe801ff2,
    0x109f8084f0042720212f010968084a804250021280109300849804248021240108e8084640422a02115,
    0x169380b49c05a4a02d000167980b3c8059dc02ceb0167200b0000430802183010a70085380429202145,
    0x16df00b6e005b6c02db0016d700b6a005b4c02da0016cb00b60005ade02d6f016b380b4c005a5a02d2d,
    0x181e00c0ec0606a030310180300c01405c5e02e2f016ef00b76005bac02dd0016e700b72005b8c02dc0,
    0x18ff80c7c00637e031a0018c700c4c40625e031050187f80c3f0061f4030a10184f80c2740612c03041,
    0x534e8299fc14cdc0a640053158298a814c3e0a61005306029400149fa0a4d00524601380009b7e03400,
    0x5400829fc814fb20a7d5053e9829f4c14fa20a7d0053e5029e2c14f100a7220538f829c5c14dca0a6a0,
    0x547f02a3f4151f60a8fb0547b82a3c8151660a8820543982a100150440a80c0540502a01c1500a0a803,
    0x54ff02a7e8153de0a9e6054f202a7801539e0a9cf054d902a610152f80a960054a302a4c01524a0a90a,
    0x555b02aad4155620aab10555782a9f8154f40aa7a0553b02a980154960aa440552102a900154500aa00,
    0x558702ac241560c0ab010557a02abc8155d40aae00556e82ab6c155840aac20556002ab001557a0aab9,
    0x6be3035ec01af460ac00055f102adc0156d20ab5c055ad02acc01565c0ab280559302ac801562c0ab11,
    0x7d9b03eca81f6500fb1f07d8e83ec741f62e0fb1307d8303ec001f5b20fa7007d3683e4001aff60d7cb,
    0x7ee383f6481fb1e0fd5007e9e83ef4c1f7620fb4607da203ed0c1f6820fb4007d9f03ecf81f6780fb38,
    0x7fe783ff281ff8e0ffc207fdf03fd981feb40ff4107f9d03fc841fdf80fe7607f3a03f9c01fbf60fdf0,
    0x802e8401402009a1003f0801e8400f0200741002808013040034200161000007fee03ff681ffae0ffd2,
    0x81ce840e00206ea10350081a4840d08206801032d0818f840c00205a0102a00814e040a00201f410080,
    0x82bd0415c020ac61053008293841400209f6104d8082698412c02093a10400081e7840f2020786103a0,
    0x839b04180020b78105bb082dc8416cc20b62105a3082d084165c20b2a10594082c904163020b141057c,
    0x841a84202821010108080840284200020f74107b2083d8041e1c20f0a10780083b3841d8020eaa10740,
    0x848a842400211ea108f4084790423802113c108800843b042180210aa1083f0841e0420f02107010837,
    0x853e0429802146a10a190850b8428542142610a10085000428002137e109be084db8426002127210920,
    0x86240430002172210b80085b9042d80216aa10b400859a842c00215c810ac908563842b002153810a80,
    0x87a2843cc021e4e10f270878e043c0021d6210eb008754843a0021a4610d00086790433002196410c80,
    0x88740443402215e110830883a8441d4220e4110710881b84400c21fec10fe0087e2043ec021f0210f70,
    0x88ed04476822388111c1088d904460c222ec11176088b90445402228e11147088a20445102224c11103,
    0x8954044a7c2253a1128f08946844a28225101128808943044a00224561121308908844800223b8111dc,
    0x899e844cf4226721133508999844cc8226601132a08994044c4c226201130f08986044c14225bc112b0,
    0x8a6384531c2298a114c408a57845200228c21145f08a2504511c2286811400089b0844d74226a011350,
    0x8ba3045d0022e341170008b5c045ae022d541168008b2204591022c5e1160008aed84576022b5c11580,
    0x8c9f8464fc2325e1191808c8b046454232261190c08c848464242320c118ff08c6f8462802305611800,
    0x8d1d0468e82346411a0b08d00046800233c6119e308cf0846784233a0119aa08cd38466802328211941,
    0x8e478471c82388011c4008e170470282381011c0008d7c046ac02353a11a9d08d44846970234a011a50,
    0x8ecc04766023b1211d6a08eb404759c23aca11d6008ea304751823a6011d0b08e8484742023a0c11d00,
    0xb51c05a00028c8c1440009a1704c00025fe012f90092a1849200247321200008fd8047ec023de411ee0,
    0xb73f85b9002d71e16b7d0b5bb85ad8c2d68616b400b59785ac002d5da16ad00b55f05a9c02d4bc16a40,
    0xc684063400319aa188000c3fb85c0002dfc616fe30b7f085bf802df3e16f930b7a805bd402de9416f00,
    0xde3506f000365f61b1700d8b386c590362a41b1500d89106c00035ffc1affd0d7fd86bfd435fe61aff0,
    0xea530752943a9441d4a20ea4f8752783a9381d4560ea2a075000379321bc900de4406f200378f81bc70,
    0xea8e0754583aa281d50d0ea8507541c3aa0a1d4c50ea618752f43a9761d4bb0ea5c8752b83a9581d4a9,
    0xeb6d075b083ad801d6a80eb528755483aaa01d54a0eaa30755183aa881d5400ea9f0754ec3aa721d51e,
    0xebe1075ea83af501d78a0ebc4075dc03aedc1d7500eba7075cd83ae681d7160eb8a075bf03adf41d6dc,
    0xf3f3079f803c5d61e2c00f156878a403c29c1e14e0f09e8784dc3c2581e1000ef8f077c003af961d7c4,
    0xf70f87b8143dc061ee000f4a587a52c3d2861e9000f46207a0003cffc1e7f00f3f7079fb43cfd61e7e8,
    0xf72107b9083dc761ee3b0f71c87b8e43dc6e1ee340f71907b8a43dc4e1ee270f71207b8903dc441ee21,
    0xf72c87b9643dcae1ee570f72a07b9503dca41ee510f72787b9343dc961ee4b0f72487b9243dc8e1ee47,
    0xf73b87b9d03dce41ee6c0f73507b99c3dcc81ee640f73107b9843dcbe1ee5f0f72e87b9743dcb61ee5b,
    0x1536f8800003dd761eeab0f75487ba943dd461eea10f74d87ba2c3dd121ee800f73f07b9f83dcf81ee79,
    0x189a50c00005f43a2f800175f00b3ac059d422b82015c0e8add0056e702a700]

/-- Ranges of the numerals beyond ASCII that are not decimal digits: superscripts, fractions,
Roman numerals and the like. -/
def numeralRanges : PackedTable where
  bits := 21
  width := 2
  rows := 80
  words := #[
    0x6af003560018fc00c78005f9002fc0016ee00b72004fc8027d00017c000bc0005c8002e400166000b2,
    0x103c8081d0040e00207000ced00676802ff2017f000b78005bb8026f80136900799803ca801af000d70,
    0x180380c01c059fa02cfd013c9809dd8049fe024ea0124d8091800431202185010c10085400411202080,
    0x195f80cac406512032800192f80c9440649e032480191480c8800632a031920181d00c0e00605203021,
    0x81a0840d0420646103200817d840b84203161018a080bc04050020266101070541a82a0c014dde0a6e6,
    0x84de8426f021236109160847f8423ec2115e108a70843f8421e4210be10858081ea840f44206941034a,
    0x85bf842de0216be10b5808577842bac2153e10a9d0853f0429f42149010a40084ff8427482139e109c0,
    0x88fa044784220ca11052087e5843f1421ea810f5108793043c7421cfc10e600867f8433e82175e10ba9,
    0xe979874b802dd2c16e800b5b085ad6c248dc1240008fea047f00238d811c5a08c790463a822e761173a,
    0xf88607c4003da7a1ed2f0f69687b4043d9681ecb10f65787b2b43d9561ec710f46787a31c3a6f01d360]

/-- Whether a character is a letter. -/
def isLetter (c : Char) : Bool :=
  if c.toNat < 128 then c.isAlpha else letterRanges.covers c.toNat

/-- Whether a character is a letter, a decimal digit or another numeral. -/
def isAlphanumeric (c : Char) : Bool :=
  if c.toNat < 128 then c.isAlphanum
  else letterRanges.covers c.toNat || isDigit c || numeralRanges.covers c.toNat

/-- Whether a character can stand inside a word. -/
def isWord (c : Char) : Bool :=
  c == '_' || isAlphanumeric c

end Daybook.Text
