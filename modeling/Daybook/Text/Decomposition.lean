import Daybook.Text.Table

/-!
# Decompositions of characters

* `decompose`: the full canonical decomposition of a character, Hangul syllables included.
* `decomposeCompatibly`: the full compatibility decomposition, which also opens ligatures, widths,
  superscripts and other presentation forms.
-/

namespace Daybook.Text

/-- Rows `character, offset, length`: where the full canonical decomposition of
a character stands in `canonicalPool`. -/
def canonicalRows : PackedTable where
  bits := 21
  width := 3
  rows := 2061
  words := #[
    0x6280000800010000c40000100001800186000020000200030800004000020006080000800000000c0,
    0xa00032c00004000120006500000800020000c90000100003800190000020000600031c000040000a,
    0x1000078001a2000020000e00033c000040001a0006700000800030000cd000010000580019800002,
    0x6c80000800050000d600001000098001aa000020001200035000004000220006980000800040000d2,
    0x1a00038000004000320006e80000800060000dc000010000b8001b60000200016000368000040002a,
    0x10000f8001ca000020001e000390000040003a0007180000800070000e2000010000d8001c200002,
    0x7600000800090000eb00001000118001d400002000220003a400004000420007400000800080000e7,
    0x2a0003c8000040005200078800008000a0000ef00001000138001dc00002000260003b4000040004a,
    0x1000178001f2000020002e0003d8000040005a0007a800008000b0000f400001000158001e600002,
    0x80000008000d0000ff00001000198001fa00002000320003f000004000620007d800008000c0000fa,
    0x3a000414000040007200082000008000e000103000010001b8002040000200036000404000040006a,
    0x10001f800214000020003e000424000040007a00084000008000f000107000010001d80020c00002,
    0x89000008001100010f000010002180021c0000200042000434000040008200086000008001000010b,
    0x4a00045c00004000920008b00000800120001150000100023800228000020004600044c000040008a,
    0x100027800238000020004e00046c000040009a0008d0000080013000119000010002580023000002,
    0x9100000800150001210000100029800240000020005200047c00004000a20008f000008001400011d,
    0x5a0004a400004000b2000940000080016000125000010002b800248000020005600048c00004000aa,
    0x10002f80025c000020005e0004b400004000ba00096000008001700012b000010002d80025400002,
    0x9b8000080019000136000010003180026a00002000620004d000004000c200098000008001800012f,
    0x6a0004f400004000d20009e000008001a00013b000010003380027400002000660004e400004000ca,
    0x10003780028c000020006e00051400004000da000a2000008001b000143000010003580027c00002,
    0xa7800008001d00014e000010003980029a000020007200053000004000e2000a4000008001c000147,
    0x7a00055800004000f2000aa800008001e000154000010003b8002a2000020007600054000004000ea,
    0x10003f8002b6000020007e00056800004000fa000ac800008001f000158000010003d8002ae00002,
    0xb0800008002100016000001000418002be00002000820005780000400102000ae800008002000015c,
    0x8a0005a00000400112000b2800008002200016400001000438002c60000200086000588000040010a,
    0x1000478002da000020008e0005b0000040011a000b5800008002300016a00001000458002d200002,
    0xb9800008002500017200001000498002e200002000920005c00000400122000b7800008002400016e,
    0x9a0005e00000400132000bb8000080026000176000010004b8002ea00002000960005d0000040012a,
    0x10004f8002fa000020009e0005f0000040013a000bd800008002700017a000010004d8002f200002,
    0xe680000800290001b0000010005180035e00002000a20006840000400142000d0000008002800017e,
    0xaa0007480000400152000e8800008002a0001d0000010005380039e00002000a6000738000040014a,
    0x1800580003ae00003000ae800758000060015a000ea800008002b0001d400001000558003a600002,
    0xef00000c002de001dc000018005b0003b600003000b48007680000600166000ec80000c002c6001d8,
    0xc000078c000040017e000f100000c002f6001e1000018005e0003c000003000ba80077c0000600172,
    0x1000628003d400002000c40007a40000400186000f400000800308001e700001000608003cc00002,
    0xf80000080032c001ef00001000650003dc00003000c88007b4000060018e000f600000800318001eb,
    0xd10007e800004001a0000fc8000080033c001f800001000670003ea00002000cd0007d00000400198,
    0x10006b8003fe00002000d60007f800004001aa000fe80000800350001fc00001800694003f600003,
    0x1028000080037000204000010006d80040600002000da00080800004001b2001008000080036000200,
    0xe200082800004001c2001048000080038000208000010006f80040e00002000de00081800004001ba,
    0x10007380041e00002000e600083800004001ca00106800008003900020c000010007180041600002,
    0x10a800008003b000214000010007580042600002000ea00084800004001d200108800008003a000210,
    0xf200086800004001e20010c800008003c000218000010007780042e00002000ee00085800004001da,
    0x10007b80044e00002000f600089800004001ea0010f800008003d00021e000010007980043600002,
    0x11680000c003f40022c000018007dc0045600003000fa0008a800004001f200114800008003e000228,
    0x1050008c800006002070011880000c0040800230000010008080045e00002001000008b800006001fd,
    0x1000844006880000100108000d0c000020020f001a08000040041c00340000010008300046600002,
    0x1c400000400432003870000100085c0070c000020010a800e140000200214001bf0000040042600374,
    0x112000e3c0000400222001c7000008004400038c0000100087800714000020010e000e24000040021a,
    0x10008bc0075a0000200116800eb0000040022b001d580000800452003aa000018008980072000002,
    0x1e600000800474003cb000010008e000794000030011a800ec00000400233001d780000800462003ae,
    0x1230010000000400244001ea00000800484003d3000010009000079c000020011f000f34000040023c,
    0x10009400081a0000200127001030000040024c002038000080049400403000010009200080200002,
    0x229800008004b40045100001000960008a0000020012b0010e400004002540020c800008004a40040e,
    0x1330011d800004002640022f000008004c40045d00001000980008b8000020012f00115c000040025c,
    0x10009c0009a20000200137001340000040026c00261000008004d4004c1000010009a0008ee00002,
    0x26d800008004f4004da000010009e0009ae000020013b001358000040027400269800008004e4004d2,
    0x14300138800004002840026f80000800504004de00001000a00009ba000020013f001370000040027c,
    0x1000a40009ce0000200147001398000040028c0027280000800514004e400001000a20009c600002,
    0x27780000800534004ee00001000a60009da000020014b0013b000004002940027580000800524004ea,
    0x1530013d000004002a40027980000800544004f200001000a80009e2000020014f0013c0000040029c,
    0x1000ac000c46000020015700188800004002ac0027c80000800554004f800001000aa0009ea00002,
    0x36980000800574006c200001000ae000d80000020015b00189800004002b4003128000080056400624,
    0x16300256400004002c4004ac000008005840093400001000b0001262000020015f0024a400004002bc,
    0x1000b40012bc000020016700257400004002cc004ae000008005940095b00001000b20012b400002,
    0x4ef800008005b4009dd00001000b60013b8000020016b00273000004002d4004e5800008005a40095f,
    0x17300296c00004002e40052d000008005c400a5900001000b800146c000020016f0028cc00004002dc,
    0x1000bc0016b80000200177002d3000004002ec005a5800008005d400b4800001000ba0014bc00002,
    0x624000008005f400bcc00001000be001796000020017b002f2800004002f4005ca000008005e400b5d,
    0x18300332c0000400304006650000080060400cc800001000c000198e000020017f00330000004002fc,
    0x1000c4401bb80000200187803768000040030d006a60000080061600d4b00001000c2401a9400003,
    0x7ab8000080063800f5200001000c6801e9a000020018c003d0c0000400316006ef00000c0062600ddd,
    0x194003dd80000400326007ba8000080064800f7300001000c8801ed20000200190003d70000040031e,
    0x1000cc801f440000200198003e74000040032e007c98000080065800f8100001000ca801ef000002,
    0xd840000080067801b0600001000ce80204c000020019c003ee40000400336007d60000080066800fa7,
    0x1a4006cec000040034600d890000080068801b0e00001000d080361800002001a0006c28000040033e,
    0x1000d4803c0000002001a8006d0c000040034e00da08000080069801b4000001000d280367a00002,
    0xf03000008006b801e0500001000d6803c0800002001ac00780c000040035600f01000008006a801e01,
    0x1b500782c000040036800f0500000c006ca01e0900001800d8803c1000002001b000781c000040035e,
    0x1000dd003c2000002001b900783c000040037000f07000008006dc01e0d00001000db003c1800002,
    0xf0b00000c006fe01e1500001800df003c2800002001bd00784c000040037800f09000008006ec01e11,
    0x1c700786c000040038c00f0d0000080071401e1900001000e2003c3000003001c280785c0000600382,
    0x1000e6803c4000002001cc00787c000040039600f0f00000c0072601e1d00001800e4003c3800002,
    0xf130000080074801e2500001000e8803c4800002001d000788c000040039e00f110000080073801e21,
    0x1d80078ac00004003ae00f150000080075801e2900001000ea803c5000002001d400789c00004003a6,
    0x1000ef003c6000003001dc8078bc00006003b600f170000080076801e2d00001000ec803c5800002,
    0xf1b0000080078c01e3500001000f1003c6800002001e10078cc00004003c000f190000080077c01e31,
    0x1ea0078ec00004003d200f1d00000c0079e01e3900001800f3003c7000002001e50078dc00004003c8,
    0x1000f7803c8000002001ee0078fc00004003da00f1f000008007b001e3d00001000f5803c7800002,
    0xf23000008007d001e4500001000f9803c8800002001f200790c00004003e200f21000008007c001e41,
    0x1fa00792c00004003f200f25000008007e001e4900001000fb803c9000002001f600791c00004003ea,
    0x180100803ca000003001ff80793c00006003fc00f2700000c007f201e4d00001800fd803c9800002,
    0xf2b0000080082001e550000100103803ca8000030020580794c000060040800f2900000c0080a01e51,
    0x20e00796c000040041a00f2d0000080083001e590000100105803cb0000020020a00795c0000400412,
    0x10010a003cc0000020021300797c000040042400f2f00000c0084201e5d0000180107803cb800002,
    0xf3300000c0086601e65000018010c003cc8000020021700798c000040042c00f310000080085401e61,
    0x2220079ac000040044200f3500000c0087e01e69000018010f003cd0000030021c80799c0000600436,
    0x100113803ce000002002260079bc000040044a00f370000080089001e6d0000100111803cd800002,
    0xf3b000008008b001e750000100115803ce8000020022a0079cc000040045200f39000008008a001e71,
    0x2338079ec000060046400f3d00000c008c201e790000180117803cf0000020022e0079dc000040045a,
    0x10011c803d0000002002380079fc000040046e00f3f000008008d801e7d000010011a803cf800003,
    0xf43000008008f801e85000010011e803d08000020023c007a0c000040047600f41000008008e801e81,
    0x244007a2c000040048600f450000080090801e890000100120803d100000200240007a1c000040047e,
    0x100124803d200000200248007a3c000040048e00f470000080091801e8d0000100122803d1800002,
    0xf4b0000080093801e950000100126803d28000020024c007a4c000040049600f490000080092801e91,
    0x254007a8000004004a600f4d8000080094801e990000100128803d300000200250007a5c000040049e,
    0x18012cc03d4a0000300258007a9000004004ae00f518000080095801ea2000010012a803d4200002,
    0xf5580000c0098401eaa000018012fc03d52000030025e007aa000006004b900f5380000c0096c01ea6,
    0x26a007ac000006004d100f5780000c0099c01eae0000180132c03d5a0000300264007ab000006004c5,
    0x180138c03d6a0000300270007ad000006004dd00f5980000c009b401eb20000180135c03d6200003,
    0xf5d800008009e001eba000010013b803d720000200276007ae000006004e900f5b80000c009cc01eb6,
    0x27f007b0000006004fb00f5f80000c009f001ebe000010013d803d7a000020027a007af000004004f2,
    0x180143403d8a0000300285007b10000060050700f6180000c00a0801ec20000180140403d8200003,
    0xf6580000800a3401eca0000100146003d92000020028b007b20000060051300f6380000c00a2001ec6,
    0x293007b40000040052400f6780000800a4401ece0000100148003d9a000020028f007b30000040051c,
    0x18014d403daa0000300299007b50000060052f00f6980000c00a5801ed2000018014a403da200003,
    0xf6d80000c00a8801eda0000180150403db2000030029f007b60000060053b00f6b80000c00a7001ed6,
    0x2ab007b80000060055300f6f80000c00aa001ede0000180153403dba00003002a5007b700000600547,
    0x100159003dca00002002b1007b90000060055f00f7180000c00ab801ee20000180156403dc200003,
    0xf7580000c00ae001eea000018015b403dd200003002b5007ba0000040056800f7380000800acc01ee6,
    0x2c1007bc0000060057f00f7780000c00af801eee000018015e403dda00003002bb007bb00000600573,
    0x100163803dea00002002c6007bd0000040058a00f7980000800b1001ef20000180161403de200003,
    0xf8080000800b3001f000000100165803df200002002ca007be0000040059200f7b80000800b2001ef6,
    0x2d4007c1800006005a500f8280000c00b4401f040000180167c03e0600003002ce007c08000040059a,
    0x18016d403e1600003002d9007c2800004005b000f8480000800b5c01f08000018016ac03e0e00003,
    0xf8880000800b8801f100000180170403e1e00003002df007c3800006005bb00f8680000c00b7001f0c,
    0x2ea007c6000006005d100f8a80000c00b9c01f140000180172c03e2600003002e4007c4800004005c6,
    0x180178403e3a00003002ef007c7000006005db00f8d80000c00bb001f1a0000100175803e3200002,
    0xf9280000c00bdc01f24000018017ac03e4600003002f4007c8800004005e600f9080000800bc801f20,
    0x2ff007ca800004005fc00f9480000800bf401f28000018017dc03e4e00003002fa007c9800006005f1,
    0x180183403e5e0000300305007cb8000060060700f9680000c00c0801f2c0000180180403e5600003,
    0xf9a80000c00c3401f340000180185c03e66000030030a007cc8000040061200f9880000800c2001f30,
    0x315007ce8000040062800f9c80000800c4c01f380000180188c03e6e0000300310007cd8000060061d,
    0x18018e403e7e000030031b007cf8000060063300f9e80000c00c6001f3c000018018b403e7600003,
    0xfa280000c00c8c01f440000180190c03e860000300320007d08000040063e00fa080000800c7801f40,
    0x32b007d30000060065300fa580000c00ca001f4a0000100193803e920000200326007d200000600649,
    0x180198c03ea60000300330007d48000040065e00fa880000800cb801f500000180196403e9a00003,
    0xfad80000800ce401f59000018019bc03eae0000300336007d58000060066900faa80000c00ccc01f54,
    0x340807d88000040067f00fb080000800cfa01f60000018019e803ebe000030033b807d740000600674,
    0x1801a4003ece0000300346807d98000060068a00fb280000c00d0e01f6400001801a1003ec600003,
    0xfb680000c00d3a01f6c00001801a6803ed6000030034b807da8000040069500fb480000800d2601f68,
    0x355807dc8000040022d00fb880000800d5201f7000001801a9803ede0000300351807db800006006a0,
    0x10008cc03eee0000200357807dd8000040023100fba80000800d5a01f74000010008bc03ee600002,
    0xfbe80000800d6a01f7c000010008f803ef60000200359807de8000040023c00fbc80000800d6201f78,
    0x362807e1000008006c100fc180001000d7a01f8200001801ae803f02000030035b807e000000400240,
    0x1801b6003f12000030036a807e2000008006d100fc380001000d9a01f8600002001b2403f0a00004,
    0xfc780001000dd601f8e00002001b9c03f1a0000400371807e3000008006df00fc580001000db601f8a,
    0x380807e5000008006fd00fc980001000df201f9200001801bd803f220000300379807e4000008006ef,
    0x1801c5003f320000300388807e60000080070d00fcb80001000e1201f9600002001c1403f2a00004,
    0xfcf80001000e4e01f9e00002001c8c03f3a000040038f807e70000080071b00fcd80001000e2e01f9a,
    0x39e807e90000080073900fd180001000e6a01fa200001801cc803f420000300397807e80000080072b,
    0x1801d4003f5200003003a6807ea0000080074900fd380001000e8a01fa600002001d0403f4a00004,
    0xfd780001000ec601fae00002001d7c03f5a00004003ad807eb0000080075700fd580001000ea601faa,
    0x3ba007ed0000040077200fd980000c00ede01fb200001001db403f6200002003b5807ec00000800767,
    0x1001e0003f7400002003bf007ee4000040077c00fdc00000c00ef201fb700001001ddc03f6c00003,
    0xfe180000c00f0e01fc200001001e1403f8200001003c2007ef8000040078200fde0000080042e01fbb,
    0x10d007f24000040079400fe400000c00f2201fc700001001e3c03f8c00003003c6007f10000040078a,
    0x1001e7003f9c00002003cd007f34000040079800fe60000080043801fcb00001001e5803f9400002,
    0xfeb00000c0044c01fd300001801e9003fa400002003d1007f4400004007a000fe800000800f3c01fcf,
    0x10f007f6c00004007b000fed00000800f5c01fd900001001eb003fb000003003d4807f5c00004007a7,
    0x1001ee803fc200002003dc007f8000004007b600fef80000800f6801fde00001001ec803fba00002,
    0xff380000800f8601fe600001001f0403fca00002003df807f90000060023500ff180000c00f7801fe2,
    0x3e7007fb0000040022200ff580000800f9801fea00001001f2803fd200002003e4007fa000006007c5,
    0x1001f5803fe600003003e9807fc800002007d200ff78000080042a01fee00001001f4003fda00002,
    0xffd0000080044001ff900001001f8003ff000003003ee807fdc00004007db00ffb00000c00fb001ff4,
    0x3f400800400002007e70100000000400fcc01ffd00001001f9003ff80000200112007fec00004007e2,
    0x1001fb40433600002003f5808668000040000a0109580000400fd40212a00000801fa40424c00001,
    0x110480000800fee0220400001001fd40439e00002003f980873800004007f1010e680000800fde021ae,
    0x40180891000004008010112080000800ffe0222600001001ff40444800002003fd80883000004007f9,
    0x1002034044da00002004058089880000400809011300000080100e02249000010020140448e00002,
    0x113a8000080102e0227400001002054044e200002004098089c00000400811011378000080101e0226e,
    0x411808a100000400821011408000080103e0228000001002074044f2000020040d8089e00000400819,
    0x10020b40455a0000200415808ab00000400829011448000080104e02288000010020940450a00002,
    0x11718000080106e022e2000010020d4045c20000200419808b800000400831011578000080105e022ae,
    0x421808ca40000400841011768000080107e022ec000010020f4045d6000020041d808ba80000400839,
    0x100212c060a0000020042480c1380000400847018260000080108a02adc000008021100465400001,
    0x182e000008010aa0305a0000100214c060b0000020042880c158000040084f0182a0000080109a03052,
    0x43080c19c000040085f01832800008010ba030620000100216c060c0000020042c80c1780000400857,
    0x10021ac060e8000020043480c1cc000040086701838800008010ca030700000100218c060d200002,
    0x183e800008010ea0307c000010021cc060f4000020043880c1e4000040086f0183b800008010da03076,
    0x44080c2c0000040087f01857000008010fa030ac000010021ec0613c000020043c80c2500000400877,
    0x100222c06174000020044480c2e000004008870185b0000080110a030b40000100220c0616400002,
    0x18638000080112a030c50000100224c06184000020044880c300000040088f0185f0000080111a030bc,
    0x45080c350000040089f018698000080113a030d10000100226c061a0000020044c80c3240000400897,
    0x10022ac061b8000020045480c36800004008a70186c8000080114a030d70000100228c061ac00002,
    0x187d0000080116a030f9000010022cc061f0000020045880c3dc00004008af0187a0000080115a030dd,
    0x45f03e40c00002008bd07c81000004011780f901000008022ec1f200000020045c80c3f800004008b7,
    0x8023081f210000010046103e41c00002008c107c83000004011800f905000008022fc1f20800001,
    0x7c870000040118e0f90d000008023181f218000010046283e42c00002008c407c85000004011860f909,
    0x46683e44c00002008cc07c89000004011960f911000008023281f220000010046483e43c00002008c8,
    0x8023481f230000010046883e45c00002008d007c8b0000040119e0f915000008023381f22800001,
    0x7c8f000004011ae0f91d000008023581f238000010046a83e46c00002008d407c8d000004011a60f919,
    0x46e83e48c00002008dc07c91000004011b60f921000008023681f240000010046c83e47c00002008d8,
    0x8023881f250000010047083e49c00002008e007c93000004011be0f925000008023781f24800001,
    0x7c97000004011ce0f92d000008023981f258000010047283e4ac00002008e407c95000004011c60f929,
    0x47683e4cc00002008ec07c99000004011d60f931000008023a81f260000010047483e4bc00002008e8,
    0x8023c81f270000010047883e4dc00002008f007c9b000004011de0f935000008023b81f26800001,
    0x7c9f000004011ee0f93d000008023d81f278000010047a83e4ec00002008f407c9d000004011e60f939,
    0x47e83e50c00002008fc07ca1000004011f60f941000008023e81f280000010047c83e4fc00002008f8,
    0x8024081f290000010048083e51c000020090007ca3000004011fe0f945000008023f81f28800001,
    0x7ca70000040120e0f94d000008024181f298000010048283e52c000020090407ca5000004012060f949,
    0x48683e54c000020090c07ca9000004012160f951000008024281f2a0000010048483e53c0000200908,
    0x8024481f2b0000010048883e55c000020091007cab0000040121e0f955000008024381f2a800001,
    0x7caf0000040122c0f95d000008023381f2b8000010048a83e56c000020091407cad000004012260f959,
    0x48e03e58c000020091b07cb1000004012340f961000008024641f2c0000010048c03e57c0000200917,
    0x8024841f2d0000010049003e59c000020091f07cb30000040123c0f965000008024741f2c800001,
    0x7cb70000040124c0f96d000008024941f2d8000010049203e5ac000020092307cb5000004012440f969,
    0x49603e5cc000020092b07cb9000004012540f971000008024a41f2e0000010049403e5bc0000200927,
    0x8024c41f2f0000010049803e5dc000020092f07cbb0000040125c0f975000008024b41f2e800001,
    0x7cbf0000040126c0f97d000008024d41f2f8000010049a03e5ec000020093307cbd000004012640f979,
    0x49e03e60c000020093b07cc1000004012740f981000008024e41f300000010049c03e5fc0000200937,
    0x8025041f31000001004a003e61c000020093f07cc30000040127c0f985000008024f41f30800001,
    0x7cc70000040128c0f98d000008025141f31800001004a203e62c000020094307cc5000004012840f989,
    0x4a603e64c000020094b07cc9000004012940f991000008025241f32000001004a403e63c0000200947,
    0x8025441f33000001004a803e65c000020094f07ccb0000040129c0f995000008025341f32800001,
    0x7ccf000004012ac0f99d000008025541f33800001004aa03e66c000020095307ccd000004012a40f999,
    0x4ad83e68c000020095a07cd1000004012500f9a1000008025641f34000001004ac03e67c0000200957,
    0x8025801f35000001004af83e69c000020095e07cd3000004012ba0f9a5000008025701f34800001,
    0x7cd7000004012c80f9ad0000080258c1f35800001004b103e6ac000020091807cd5000004012c20f9a9,
    0x4b503e6cc000020096907cd9000004012d00f9b10000080259c1f36000001004b303e6bc0000200965,
    0x8025bc1f37000001004b703e6dc000020096d07cdb000004012d80f9b5000008025ac1f36800001,
    0x7cdf000004012e80f9bd000008025cc1f37800001004b903e6ec000020097107cdd000004012e00f9b9,
    0x4bc83e70c000020097807ce1000004012ee0f9c1000008025d81f380000010046703e6fc0000200975,
    0x8025f81f39000001004be83e71c000020097c07ce3000004012f60f9c5000008025e81f38800001,
    0x7ce7000004013060f9cd000008026081f39800001004c083e72c000020098007ce5000004012fe0f9c9,
    0x4c483e74c000020098807ce90000040130e0f9d1000008026181f3a000001004c283e73c0000200984,
    0x8026381f3b000001004c683e75c000020098c07ceb000004013160f9d5000008026281f3a800001,
    0x7cef000004013240f9dd000008026441f3b8000010048d03e76c000020099007ced0000040131e0f9d9,
    0x4cc03e78c000020099707cf10000040132c0f9e1000008026541f3c000001004ca03e77c0000200993,
    0x8026741f3d000001004ce03e79c000020099b07cf3000004013340f9e5000008026641f3c800001,
    0x7cf7000004013440f9ed000008026841f3d800001004d003e7ac000020099f07cf50000040133c0f9e9,
    0x4d403e7cc00002009a707cf90000040134c0f9f1000008026941f3e000001004d203e7bc00002009a3,
    0x8026b41f3f000001004d603e7dc00002009ab07cfb000004013540f9f5000008026a41f3e800001,
    0x7cff000004013640f9fd000008026c41f3f800001004d803e7ec00002009af07cfd0000040135c0f9f9,
    0x4dc03e80c00002009b707d010000040136c0fa01000008026d41f40000001004da03e7fc00002009b3,
    0x8026f41f41000001004de03e81c00002009bb07d03000004013740fa05000008026e41f40800001,
    0x7d08000004013840fa0d000008027041f41800001004e003e82c00002009bf07d050000040137c0fa09,
    0x4e403e86000002009c707d0b8000040138c0fa16000008027141f42a00001004e203e84800002009c3,
    0x8027341f43a00001004e603e87000002009cb07d0d800004013940fa1a000008027241f43200001,
    0x7d15000004013a40fa26000008027441f44a00001004e803e88800002009cf07d100000040139c0fa1e,
    0x4ec03e8bc00002009d707d17000004013ac0fa2d000008027541f45800001004ea03e8ac00002009d3,
    0x8027741f46800001004ee03e8cc00002009db07d19000004013b40fa31000008027641f46000001,
    0x7d1d000004013c40fa39000008027841f47000001004f003e8dc00002009df07d1b000004013bc0fa35,
    0x4f403e8fc00002009e707d1f000004013cc0fa3d000008027941f47800001004f203e8ec00002009e3,
    0x8027b41f48800001004f603e90c00002009eb07d21000004013d40fa41000008027a41f48000001,
    0x7d25000004013e40fa49000008027c41f49000001004f803e91c00002009ef07d23000004013dc0fa45,
    0x4fc03e93c00002009f707d27000004013ec0fa4d000008027d41f49800001004fa03e92c00002009f3,
    0x8027f41f4a800001004fe03e94c00002009fb07d29000004013f40fa51000008027e41f4a000001,
    0x7d2d000004014020fa59000008028001f4b000001004a783e95c00002009ff07d2b000004013fc0fa55,
    0x50303e97c0000200a0507d2f0000040140a0fa5d000008028101f4b8000010050183e96c0000200a02,
    0x80282c1f4c8000010050503e98c0000200a0907d31000004014100fa610000080281c1f4c000001,
    0x7d350000040141e0fa69000008028381f4d000001004e883e99c0000200a0d07d33000004014180fa65,
    0x50a83e9c40000200a1407d38000004014260fa6d000008028481f4d8000010050883e9ac0000200a10,
    0x8028681f4ec000010050c83e9d40000200a1807d3a0000040142e0fa73000008028581f4e400001,
    0x7d3e0000040143c0fa7b000008028741f4f4000010050e03e9e400002009df07d3c000004014360fa77,
    0x51183ea040000200a2207d40000004014420fa7f000008028801f4fc000010050f83e9f400002009c3,
    0x8028a01f50c000010051383ea140000200a2607d420000040144a0fa83000008028901f50400001,
    0x7d46000004013d20fa8b000008028ac1f51400001004f403ea240000200a2a07d44000004014520fa87,
    0x4e203ea440000200a3007d480000040145e0fa8f000008028b81f51c000010051683ea340000200a2c,
    0x8024a41f52c000010051983ea540000200a3207d4a000004014620fa930000080238c1f52400001,
    0x7d4e0000040146c0fa9b000008027c01f534000010051a83ea640000200a3407d4c000004013000fa97,
    0x51d03ea8400002009c607d50000004014720fa9f000008028e01f53c000010051b83ea7400002009f1,
    0x80271c1f54c000010051f03ea940000200a3d07d52000004014780faa3000008028ec1f54400001,
    0x7d56000004014860faab000008029081f554000010052083eaa40000200a4007d540000040147e0faa7,
    0x52383eac4000020094f07d580000040148c0faaf000008029141f55c00001004ff83eab40000200a44,
    0x80292c1f56c000010052503ead40000200a4907d5a000004014900fab30000080280c1f56400001,
    0x7d5e0000040149c0fabb000008027401f574000010052683eae40000200a0807d5c000004014980fab7,
    0x50603eb040000200a5007d60000004014140fabf0000080293c1f57c000010048b03eaf40000200a09,
    0x8029541f58c000010052a03eb140000200a5307d62000004014a40fac3000008029441f58400001,
    0x7d66000004014ae0facb0000080283c1f594000010052b03eb2400002009cc07d640000040141c0fac7,
    0x52d83eb440000200a5a07d68000004014b20facf000008023081f59c000010052c03eb340000200a10,
    0x8029801f5ac000010052f83eb540000200a5e07d6a000004014ba0fad3000008029701f5a400001,
    0x7d95000008014cc0fb1f000010029901f63a000010053183eb640000200a6207d6c000004014c20fad7,
    0x53a03ecbc0000400a7207d9700000c014de0fb2d000018029b01f658000020053503ecac0000400a68,
    0x10029f81f668000020053e03eccc0000400a7a07d99000008014f00fb31000010029d81f66000002,
    0x7d9d800008015100fb3a00001002a181f672000020054203ece00000400a8207d9b000008015000fb35,
    0x54a03ed0c0000400a9207da0800008015200fb4000001002a381f67c000020054603ecf00000400a8a,
    0x1002a781f692000020054e03ed200000400a9a07da3800008015300fb4600001002a581f68800002,
    0x884d000008015500fb4e00001002a981f69a000020055203ed300000400aa207da5800008015400fb4a,
    0x55a044d2c0000400ab208897800008015601112e00001002ab82215600002005560442700000400aaa,
    0x1002af822b74000020055e0452f80000400aba08a5e00000801570114bb00001002ad82269800002,
    0xe8b080000c015901d16000001002b183a2be00002005620745780000400ac208c9c00000801580115bb,
    0x56c8746f00000400ad70e8dd80000c015a81d16400001802b443a2c600003005670745880000600acb,
    0x802b9c5f00000003005720747000000600ae10e8df80000c015bc1d1be00001802b6c3a37a00002,
    0x17c03000004013b22f80500000802bac5f00800001005750be00c0000200ae917c01000004015d02f801,
    0x5780be02c00002009da17c05000004015de2f80900000802bb85f01000001005768be01c0000200aec,
    0x802bd05f02000001005798be03c00002009db17c07000004015e42f80d00000802bc45f01800001,
    0x17c0b000004015f22f81500000802be05f028000010057b8be04c0000200af617c09000004015ea2f811,
    0x50a8be06c0000200afe17c0d000004015fa2f81900000802bf05f030000010057d8be05c0000200afa,
    0x802c0c5f04000001005810be07c0000200b0117c0f000004016002f81d00000802bfc5f03800001,
    0x17c13000004014342f82500000802c1c5f04800001005830be08c0000200b0517c11000004016082f821,
    0x48e0be0ac0000200b0917c15000004016102f8290000080286c5f05000001004ee8be09c00002009dc,
    0x802c345f06000001005860be0bc0000200b0b17c17000004013bc2f82d00000802c285f05800001,
    0x17c1b000004016202f83500000802c3c5f06800001005870be0cc0000200b0e17c190000040161c2f831,
    0x58b0be0ec0000200b1517c1d000004016282f83900000802c4c5f07000001005890be0dc0000200b11,
    0x802c6c5f080000010058d0be0fc0000200b1917c1f000004016302f83d00000802c5c5f07800001,
    0x17c23000004016402f84500000802c7c5f088000010058f0be10c0000200b1d17c21000004016382f841,
    0x5920be12c0000200b2317c25000004016442f84900000802c845f090000010050e8be11c0000200b20,
    0x8026d45f0a000001005938be13c0000200b2617c270000040164a2f84d000008027805f09800001,
    0x17c2b000004016582f85500000802cac5f0a800001005950be14c0000200b2917c29000004016502f851,
    0x5990be16c0000200b3117c2d000004016602f85900000802cbc5f0b000001005970be15c0000200b2d,
    0x802cdc5f0c0000010059b0be17c0000200b3517c2f000004016682f85d00000802ccc5f0b800001,
    0x17c33000004016782f86500000802cec5f0c8000010059d0be18c0000200b3917c31000004016702f861,
    0x5a08be1ac0000200b4117c35000004016802f86900000802cfc5f0d0000010059f0be19c0000200b3d,
    0x802d145f0e0000010048c0be1bc0000200b4417c37000004016862f86d00000802d085f0d800001,
    0x17c3b000004016942f87500000802d245f0e800001005a40be1cc0000200b4717c390000040168c2f871,
    0x5a78be1ec0000200b4e17c3d0000040169a2f879000008027945f0f000001005a60be1dc0000200b4b,
    0x802d505f10000001005a98be1fc0000200b5217c3f000004016a22f87d00000802d405f0f800001,
    0x17c43000004016b22f88500000802d605f10800001005ab8be20c0000200b5617c41000004016aa2f881,
    0x5af8be22c0000200b5e17c45000004016ba2f88900000802d705f11000001005ad8be21c0000200b5a,
    0x802d8c5f12000001005b10be23c00002008e217c47000004016c22f88d00000802d805f11800001,
    0x17c4b000004016cc2f89500000802d985f12800001005b28be24c0000200b6417c49000004016c82f891,
    0x5b60be26c0000200b6b17c4d000004016d42f89900000802da45f13000001005b40be25c0000200b67,
    0x802dc45f14000001005b80be27c0000200b6f17c4f000004016dc2f89d00000802db45f13800001,
    0x17c53000004016ea2f8a500000802dd05f14800001004f30be28c0000200b7317c51000004016e42f8a1,
    0x4f40be2ac0000200b7817c55000004016ee2f8a9000008028a45f15000001005bb8be29c0000200b76,
    0x8027a45f16000001005be0be2bc0000200b7b17c57000004016f42f8ad00000802de45f15800001,
    0x17c5b000004017002f8b500000802dfc5f16800001005bf0be2cc0000200b7d17c590000040118e2f8b1,
    0x5c30be2ec0000200b8517c5d000004017082f8b900000802e0c5f17000001005c10be2dc0000200b81,
    0x802e2c5f18000001005c50be2fc0000200b8917c5f000004017102f8bd00000802e1c5f17800001,
    0x17c63000004017202f8c500000802e3c5f18800001005c70be30c0000200b8d17c61000004017182f8c1,
    0x5ca8be32c0000200b9417c65000004017262f8c9000008027a85f19000001005c90be31c0000200b91,
    0x802e645f1a000001004f60be33c0000200b9817c670000040172e2f8cd00000802e585f19800001,
    0x17c6b0000040173c2f8d500000802e745f1a800001005ce0be34c0000200b9b17c69000004017342f8d1,
    0x5d10be36c0000200ba117c6d000004014622f8d90000080238c5f1b000001005d00be35c0000200b9f,
    0x802e9c5f1c000001005d30be37c0000200ba517c6f000004017482f8dd00000802e8c5f1b800001,
    0x17c73000004017562f8e500000802ea85f1c800001005d48be38c00002009ed17c71000004017502f8e1,
    0x5d80be3ac0000200baf17c750000040175c2f8e900000802eb45f1d0000010052e0be39c0000200bac,
    0x802ed45f1e000001005da0be3bc0000200bb317c77000004017642f8ed00000802ec45f1d800001,
    0x17c7b000004012522f8f500000802ee45f1e800001005dc0be3cc0000200bb717c790000040176c2f8f1,
    0x5df8be3ec0000200bbe17c7d0000040177a2f8f900000802ef05f1f000001005dd8be3dc0000200bba,
    0x802f105f20000001005e18be3fc0000200bc217c7f000004017822f8fd00000802f005f1f800001,
    0x17c830000040178e2f90500000802f185f20800001005e28be40c000020098017c81000004013dc2f901,
    0x51a8be42c0000200bcc17c85000004017962f90900000802f285f21000001005e48be41c0000200bc8,
    0x802f445f22000001005e80be43c0000200bcf17c870000040179c2f90d00000802f345f21800001,
    0x17c8b000004017aa2f915000008028d85f22800001005ea0be44c0000200bd317c89000004017a42f911,
    0x5ed8be46c0000200bda17c8d000004017b22f91900000802f605f23000001005eb8be45c0000200bd6,
    0x802f805f24000001005ef8be47c0000200bde17c8f000004017ba2f91d00000802f705f23800001,
    0x17c93000004017c82f92500000802f8c5f24800001005f10be48c0000200be117c91000004014702f921,
    0x5f50be4ac0000200be917c95000004017d02f92900000802f9c5f25000001005f30be49c0000200be5,
    0x8028e85f26000001005f68be4bc0000200bec17c97000004017d62f92d00000802fac5f25800001,
    0x17c9b000004017e42f93500000802fc45f26800001005f80be4cc0000200bef17c99000004017dc2f931,
    0x5fb8be4ec0000200bf617c9d000004017ea2f9390000080246c5f27000001005fa0be4dc0000200bf3,
    0x8029005f28000001005fd8be4fc0000200bfa17c9f000004017f22f93d00000802fe05f27800001,
    0x17ca3000004018002f94500000802ffc5f28800001005ff0be50c0000200bfd17ca1000004017f82f941,
    0x6018be52c0000200c0217ca5000004014bc2f949000008029045f29000001006008be51c0000200c01,
    0x80290c5f2a0000010047a8be53c0000200c0617ca70000040180a2f94d000008030105f29800001,
    0x17cab000004018142f955000008030245f2a800001004fc8be54c0000200c0817ca90000040180e2f951,
    0x6070be56c0000200c0d17cad000004013fa2f959000008030305f2b000001006058be55c00002009cb,
    0x8030485f2c000001006088be57c0000200c1017caf000004018202f95d0000080303c5f2b800001,
    0x17cb30000040182e2f965000008030585f2c8000010060a8be58c0000200c1417cb1000004018262f961,
    0x60e8be5ac0000200c1c17cb5000004018362f969000008030685f2d0000010060c8be59c0000200c18,
    0x8030885f2e000001006108be5bc0000200c2017cb70000040183e2f96d000008030785f2d800001,
    0x17cbb0000040184e2f975000008030985f2e800001006128be5cc0000200c2417cb9000004018462f971,
    0x6160be5ec0000200a0317cbd000004018562f979000008030a85f2f000001006148be5dc0000200c28,
    0x8030c45f30000001006180be5fc0000200c2f17cbf0000040185c2f97d000008030b45f2f800001,
    0x17cc30000040186c2f985000008030d45f308000010061a0be60c0000200c3317cc1000004018642f981,
    0x5b28be62c0000200c3b17cc5000004018742f989000008030e45f310000010061c0be61c0000200c37,
    0x8031005f320000010061f8be63c0000200c3e17cc70000040187a2f98d000008030f05f31800001,
    0x17ccb0000040188a2f995000008031105f32800001006218be64c0000200c4217cc9000004018822f991,
    0x6250be66c0000200c4917ccd000004018902f999000008024b45f33000001006238be65c0000200c46,
    0x8031385f34000001005030be67c0000200c4d17ccf000004018982f99d0000080312c5f33800001,
    0x17cd3000004018a62f9a5000008031485f34800001006288be68c0000200c5017cd10000040189e2f9a1,
    0x62c8be6ac0000200c5817cd5000004018ae2f9a9000008031585f350000010062a8be69c0000200c54,
    0x8031785f360000010062e8be6bc0000200c5c17cd7000004018b62f9ad000008031685f35800001,
    0x17cdb000004018c42f9b5000008023c05f36800001006308be6cc0000200c6017cd9000004018be2f9b1,
    0x5250be6ec0000200c6717cdd000004018cc2f9b9000008031945f37000001006320be6dc0000200c63,
    0x8031b05f38000001006358be6fc0000200c6a17cdf000004018d22f9bd000008031a05f37800001,
    0x17ce3000004018e22f9c5000008031c05f38800001006378be70c0000200c6e17ce1000004018da2f9c1,
    0x63b8be72c0000200c7617ce5000004018ea2f9c9000008031d05f39000001006398be71c0000200c72,
    0x80293c5f3a0000010063d8be73c0000200c7a17ce7000004018f22f9cd000008031e05f39800001,
    0x17ceb000004018fe2f9d5000008031f85f3a8000010063e8be74c0000200c7c17ce9000004014a02f9d1,
    0x6428be76c0000200c8417ced000004019062f9d9000008032085f3b000001006408be75c0000200c80,
    0x8032245f3c000001005288be77c0000200c8817cef0000040190e2f9dd000008032185f3b800001,
    0x17cf30000040191c2f9e5000008032345f3c800001006460be78c0000200c8b17cf1000004019142f9e1,
    0x64a0be7ac0000200c9317cf5000004019242f9e9000008032445f3d000001006480be79c0000200c8f,
    0x8032645f3e0000010064c0be7bc0000200c9717cf70000040192c2f9ed000008032545f3d800001,
    0x17cfb0000040193c2f9f5000008032745f3e8000010064e0be7cc0000200c9b17cf9000004019342f9f1,
    0x6520be7ec0000200ca317cfd000004019442f9f9000008032845f3f000001006500be7dc0000200c9f,
    0x80329c5f400000010052b8be7fc0000200a5717cff0000040194c2f9fd000008032945f3f800001,
    0x17d03000004019582fa05000008032ac5f40800001006550be80c0000200ca917d01000004019502fa01,
    0x6588be82c0000200a5817d05000004019602fa09000008032bc5f41000001006570be81c0000200cad,
    0x8032d85f420000010065a8be83c0000200cb417d07000004019662fa0d000008032c85f41800001,
    0x17d0b000004019762fa15000008032e85f428000010065c8be84c0000200cb817d090000040196e2fa11,
    0x6608be86c0000200cc017d0d0000040197e2fa19000008032f85f430000010065e8be85c0000200cbc,
    0x4019862fa1d000008033085f43800001]

/-- The characters of the canonical decompositions, one after another. -/
def canonicalPool : PackedTable where
  bits := 21
  width := 1
  rows := 3268
  words := #[
    0x1800001140064e00043001850001040061000041001818001040060400041001808001040060000041,
    0x1818001380061000049001810001240060200049001800001240061000045001810001140060200045,
    0x181000154006020005500180000154006100004f0018180013c006040004f0018080013c006000004f,
    0x1850001840061000061001818001840060400061001808001840060000061001808001640061000055,
    0x1810001a40060200069001800001a40061000065001810001940060200065001800001940064e00063,
    0x1800001d4006100006f001818001bc006040006f001808001bc006000006f001818001b80061000069,
    0x1830001040060800061001820001040061000079001808001e40061000075001810001d40060200075,
    0x18380010c00604000630018100010c00602000630018080010c0065000061001940001040060c00061,
    0x18300011400608000650018200011400618000640018600011000618000630018600010c0060e00063,
    0x18100011c0061800065001860001140065000065001940001140060e00065001838001140060c00065,
    0x1810001200064e000670019380011c0060e000670018380011c0060c000670018300011c0060400067,
    0x1940001240060c00069001830001240060800069001820001240060600069001818001240060400068,
    0x1808001b0006020004c001938001ac0064e0004b001810001a8006040004a001838001240065000069,
    0x1938001b80064e0004e001808001b8006020004e001860001b0006180004c001938001b00064e0004c,
    0x1858001bc006160004f001830001bc0060c0004f001820001bc006080004f001860001b8006180004e,
    0x1808001cc0060200053001860001c80061800052001938001c80064e00052001808001c80060200052,
    0x1938001d00064e00054001860001cc0061800053001938001cc0064e00053001810001cc0060400053,
    0x1830001d40060c00055001820001d40060800055001818001d40060600055001860001d00061800054,
    0x1810001dc0060400057001940001d40065000055001858001d40061600055001850001d40061400055,
    0x1860001680060e0007a00183800168006020007a001808001680061000059001810001e40060400059,
    0x18600012400618000610018600010400636000750018d800154006360006f0018d80013c006180007a,
    0x182000c20000ea0030400184000154006180007500186000154006180006f0018600013c0061800069,
    0x3a800c00006100005500186000c20000ea0030c0018400015400602003080003a800c040061000055,
    0x182000318006080030700030800c100060e0004100182000c20000c200304001840001040060000308,
    0x19400013c006500006f0019400013c006180006b0018600012c00618000670018600011c00608000e6,
    0x18000013800602000670018080011c006180006a00186000a4800618001b700182000ca0000de00304,
    0x1808003e000602000d80018080039800602000c600180800c28000c20030100185000104006000006e,
    0x1888001940062200045001878001940061e00045001888001840062200041001878001840061e00041,
    0x1888001bc006220004f001878001bc0061e0004f001888001a40062200049001878001a40061e00049,
    0x1888001d40062200055001878001d40061e00055001888001c80062200052001878001c80061e00052,
    0x1838001840060e00041001860001a00061800048001930001d00064c00054001930001cc0064c00053,
    0x182000c0c000de003040018180013c006080030800037800c10006100004f001938001940064e00045,
    0x180800c00006080007900182000164006080030700037800c100060e0004f001838001bc0060e0004f,
    0x180800e64006020039700180800e540016e00301001c8800c04001500003b0015c800c040061000313,
    0x1da800c040076200308001d2800c20007320030100184000ee400602003a900180800e94006020039f,
    0x180800f1400602003bf00184000f1400610003b900180800c200078a00301001dc800c040076e00301,
    0x18080106800610004060018080104c00610004150018000105400610003d200180800f4800602003c9,
    0x1840011580060200433001840010d40060000435001830010e00060c004180018300108c0060000418,
    0x1830010400060c00436001830010580061e00475001878011d00060c00443001800010e0006020043a,
    0x18400105800610004d9001840013600060c00435001830010540061000430001840010400060c00430,
    0x18400107800610004380018400106000608004380018200106000610004370018400105c0061000436,
    0x18400108c00608004430018200108c006100044d001840010b400610004e9001840013a0006100043e,
    0x32980189c006100044b001840010ac00610004470018400109c00616004430018580108c0061000443,
    0x49e0024a000ca8006d20032a001b0400ca8006d50032a00192800caa006270032a00192000ca800627,
    0x49e00248801278009210049e00247001278009170049e00245801278009150049e0024cc0127800930,
    0x51e0028c801378009af004de00268801378009a1004eb80271c0137c009c70049e0024bc012780092b,
    0x5ab802d1c0167c00b47005ab002d1c0147800a2b0051e0028700147800a170051e0028580147800a38,
    0x66a8032fc018ac00c46005eb802f180177c00bc7005df002f18017ae00b920059e002c880167800b21,
    0x6ec80355c01a8c00d3e006a38034f801a8c00cd5006610033180198400cc60066b003318019aa00cc6,
    0x7db803d5801f6e00f51007db803d3001f6e00f42006ef80376401b9400dcf006ec80373c01bb200dca,
    0x7db803e4801f0000f71007c0003ecc01f0000fb2007ba003dc401ee400f71007da803d0001f6e00f5b,
    0xd9a806c1c0366a01b050081700409401f6a00f90007db803eac01f6e00fa6007db803e8401f6e00f9c,
    0xd9a806cfc0366a01b3e00d9a806cf00366a01b3a00d9a806c440366a01b0d00d9a806c2c0366a01b09,
    0x1988001080064600062001918001080060e00062001838001080064a00061001928001040366a01b42,
    0x1918001900064600044001838001900060e0004400180800c9c000c6003010019380010c0066200062,
    0x32800c000060800045001968001900065a00044001938001900064e00044001988001900066200044,
    0x1980001940066000045001968001940065a0004500180800c10000ca00301001820001140060000304,
    0x18380012000608000670018200011c0060e00066001838001180060c0032700032800c180064e00045,
    0x1970001200064e00068001938001200061000068001840001200064600068001918001200060e00068,
    0x1808001ac006020004b00180800c20000d200301001840001240066000069001980001240065c00068,
    0x36000c10006460004c001918001b0006460004c001988001ac006620004b001918001ac006460004b,
    0x183800134006020006d001808001340065a0006c00196800130006620006c001988001300060800323,
    0x198800138006460006e001918001380060e0006e00183800138006460006d001918001340060e0006d,
    0x37800c20006060004f00180800c0c000de003010018180013c0065a0006e00196800138006620006e,
    0x180800140006020030400037800c04006080004f00180000c10000de003000018200013c0061000303,
    0x1918001480064600072001918001480060e00072001838001480060e00070001838001400060200070,
    0x1918001cc0064600053001838001cc0060e00053001988001c8006620005200182000c8c000e400304,
    0x39800c1c006460005300183800c30000e6003070018600014c0060e0030100039800c1c0060200053,
    0x1968001500066200074001988001500064600074001918001500060e00074001838001500060e00323,
    0x1818001540065a00075001968001540066000075001980001540064800075001920001540065a00074,
    0x19180015800606000760018180015800610003040003a800c20006080005500180800c0c000ea00301,
    0x18380015c00610000770018400015c00602000770018080015c00600000770018000015c0064600076,
    0x1838001640061000078001840001600060e000780018380016000646000770019180015c0060e00077,
    0x1988001a0006620007a00198800168006460007a00191800168006040007a001810001680060e00079,
    0x1848001840061200041001918001840064600041001838005fc0061400079001850001dc0061000074,
    0x30800c24006040004100180000c08000c20030000181000104006020030200030800c040060400041,
    0x183000104006040032300030800c08006460004100181800c08000c200303001810001040061200302,
    0x184800c18000c20030900183000104006000030600030800c000060c0004100180800c18000c200301,
    0x191800194006460004500183000c8c000c20030600191800104006060030600030800c0c0060c00041,
    0x181000114006020030200032800c040060400045001818001940060600045001848001940061200045,
    0x181800c08000ca0030300181000114006120030200032800c24006040004500180000c08000ca00300,
    0x19180013c006460006900191800124006120006900184800124006040032300032800c080064600045,
    0x37800c00006040004f00180800c08000de003010018100013c006120006f0018480013c006460006f,
    0x19180013c006060030200037800c0c006040004f00184800c08000de003090018100013c0060000302,
    0x180000c6c000de003000018d80013c006020031b00037800c04006360004f00181000c8c000de00302,
    0x37800c8c006360004f00181800c6c000de003030018d80013c006120031b00037800c24006360004f,
    0x180800c6c000ea003010018d800154006120007500184800154006460007500191800154006460031b,
    0x3a800c0c006360005500184800c6c000ea003090018d800154006000031b0003a800c000063600055,
    0x1918001e40064600059001800001e4006000005900191800c6c000ea003230018d800154006060031b,
    0x1d8800c0000626003b10018a000ec400626003b1001818001e40060600059001848001e40061200059,
    0x189800e440068400314001d8800d0800626003b100180800c50007620030100189800ec40060000314,
    0x189800e440060200314001c8800c04006260039100180000c50007220030000189800e440062800391,
    0x189800ed40060000314001da800c0000626003b50018a000ed400626003b5001a1000c500072200342,
    0x189800e540060000314001ca800c0000626003950018a000e54006260039500180800c500076a00301,
    0x189800edc0060000314001db800c0000626003b70018a000edc00626003b700180800c500072a00301,
    0x189800e5c006280039700189800e5c0068400314001db800d0800626003b700180800c500076e00301,
    0x1a1000c500072e0034200189800e5c0060200314001cb800c04006260039700180000c500072e00300,
    0x180800c50007720030100189800ee40060000314001dc800c0000626003b90018a000ee400626003b9,
    0x180000c50007320030000189800e64006280039900189800e640068400314001dc800d0800626003b9,
    0x18a000efc00626003bf001a1000c50007320034200189800e640060200314001cc800c040062600399,
    0x18a000e7c006260039f00180800c500077e0030100189800efc0060000314001df800c0000626003bf,
    0x18a000f1400626003c500180800c500073e0030100189800e7c0060000314001cf800c00006260039f,
    0x1e2800d0800626003c500180800c500078a0030100189800f140060000314001e2800c0000626003c5,
    0x1e4800c4c00792003420018a000e940060200314001d2800c0000628003a50018a000e940068400314,
    0x1a1000c4c00792003010018a000f240060200313001e4800c0000628003c900180000c4c0079200314,
    0x180800c4c00752003000018a000ea40060000313001d4800c500075200313001d4800d0800628003c9,
    0x1dc800c000076e00300001da800c0000762003420018a000ea40068400313001d4800c0400628003a9,
    0x180000c4c00762003450018a000ec40068a00313001d8800c000079200300001e2800c000077e00300,
    0x1a1000c4c007620034500180800c50007620034500180800c4c007620034500180000c500076200345,
    0x1c8800d140060000313001c8800d140062800391001a2800c4c0072200345001a1000c500076200345,
    0x1c8800d140068400313001c8800d140060200314001c8800d140060200313001c8800d140060000314,
    0x180000c500076e0034500180000c4c0076e003450018a000edc0068a00313001db800d140068400314,
    0x1a1000c500076e00345001a1000c4c0076e0034500180800c500076e0034500180800c4c0076e00345,
    0x1cb800d140060000314001cb800d140060000313001cb800d140062800397001a2800c4c0072e00345,
    0x1e4800d140068400314001cb800d140068400313001cb800d140060200314001cb800d140060200313,
    0x180800c4c007920034500180000c50007920034500180000c4c00792003450018a000f240068a00313,
    0x1a2800c4c0075200345001a1000c500079200345001a1000c4c007920034500180800c500079200345,
    0x1d4800d140060200313001d4800d140060000314001d4800d140060000313001d4800d1400628003a9,
    0x1d8800c100076200306001d8800d140068400314001d4800d140068400313001d4800d140060200314,
    0x182000e440060c00391001a2800d080076200342001d8800d1400602003b1001a2800ec40068a00300,
    0x1db800d1400602003b7001a2800edc0068a00300001db800d0800150003b9001a2800e440060000391,
    0x1a1007efc0060201fbf00180007efc0068a0039700180000e5c0060000395001a2800d080076e00342,
    0x182000e640060c00399001a1000c200077200342001dc800c0000610003b900182000ee40060c003b9,
    0x1e0800c0000610003c500182000f140060c003c5001a1007ff80060201ffe00180007ff80060000399,
    0x18a000e8400600003a500182000e940060c003a5001a1000c200078a00342001e2800c500078200313,
    0x1a2800d080079200342001e4800d1400602003c9001a2800f240068a00300001e480018000600000a8,
    0x10ca000ce00432400338010c800012c0075202003010010002d00068a003a900180000ea4006000039f,
    0x1112800ce0044460033801105800ce0044100033801101800ce0043a400338010ea000ce0043a000338,
    0x1e000ce00449a0033801130800ce00007a0033801124000ce00448a0033801121800ce00447800338,
    0x113d000ce0044ee003380113b000ce0044e60033801139000ce0044ca0033801132000ce00007c00338,
    0x1154800ce0045500033801151000ce00450e0033801143000ce0045060033801141000ce0044f600338,
    0x115a000ce0045660033801159000ce0045240033801148800ce0044fa003380113e000ce00455600338,
    0x182980c264060a2030990182780c2640609a0309901825800ce0055ba0300901804000ce00456a00338,
    0x183200c264060c2030990182f80c264060ba030990182d80c264060b2030990182b80c264060aa03099,
    0x183a80c264060ea0309a0183900c264060e40309a0183780c264060de030990183400c264060cc03099,
    0x185680c26406156030990184e80c2640608c0309a0183d80c264060f60309a0183c00c264060f00309a,
    0x185e80c26406176030990185c80c2640616e030990185a80c26406166030990185880c2640615e03099,
    0x186900c2680619e030990186780c26406190030990186300c26406188030990186080c2640617e03099,
    0x185300c268061b6030990186d80c268061b0030990186c00c268061aa030990186a80c268061a403099,
    0x376882332011d94066f40462400c264061fa030990187900c264061e2030990187800c264061de03099,
    0x368d81a8081211e088f8043dd0218fc0ff0a07669030fb0165200ab0e091d102ca8827e700a7ca04e32,
    0x316482259010b9a06feb02ea802787810c5a0721b03582014dd409d04099f1048b50210f40e7bc070d9,
    0x43030200040edce07210035698193100a5bc051b7027c30243380e5f806d6a0338b817b281103e081d8,
    0x403f01f1800be08058df0456b0279fc12608083c903ed001e5fc0f11809dfa04db7825cc811bde0865c,
    0x28e601477010116052d204b2581f8dc0fa5e06f0f036ed01a84c0b8c4058d804b7b8233080f19407262,
    0x2fd4813efc0f1f60531703ab801ce1c0c02405be70271c822bf80c59e08b8004b3a820fc40fb7c07a1c,
    0x3ab2818e80105ca062fe03644023ec00d77408aaa0422481dc040b0bc053c303e910195e00d99804e0d,
    0x4ad681e4a80dffc065c502f760165cc0a884052f5048e7822b48104de07ce7034408147240a2d204eae,
    0x3efa01e7280e91207149037918192680c4000619002f3a023d880d6ee066c60294d827b3813d2e09a6a,
    0x39ba81f0f80d75c0637b02ffa817b2411184070c802a5e814a8c0a42e0934a048118213b811e4c0806f,
    0x4b5c0246d00f35c04f8b04c0c025d2012dec092340402301fe680e8d2073b20300e0176e80adf204ee4,
    0x33f9819dec0a5120962e03344027e34120f8084fc03b2101c7380cb3205c3f02df701436809d0c060e1,
    0x30a2017e2c11e5406dea02e8c8140ac12cf00622e028b68261780fa200786b03aac81d0240dd3806d41,
    0x4b71024730111c2088cf03fbc81d7880e80c06ce503454019d380cc2605c6502a078148a412d0c06817,
    0x396001f2480f64007acb040f401b72c0cf2e09e9f04e2b825a8c10bf407498038e80150740dd740533f,
    0x44c58259341109808f3b0335a01b4780b70a07cd603169817a980a40e0523a0419b013b00116b007099,
    0x430901fef40f97c0975603cc781e5940f2bc0793c03b6501cca80a3bc0667402c2d0157000a28005ed3,
    0x2ace814d440a5c8052c9028a681439c09f5c096b70486f0276d013250098fc04c778243f41207008af8,
    0x370d01b5dc0d10a06691032f101953c0c3e40618e030b40182500b8dc05c6402c540161000acd005606,
    0x3de001ea040f4800798e03cc681e5740f2ac0795003ca401e5240f27c0789103a1101c8ac0e2dc06f22,
    0x4bff825b8c11f6c08d0804669822ce411602089960448802115c104f2081ed0400281fdc80fc8207e09,
    0x2c598157880ab32055550297d014b1c0a30005145027c00145a00a36a04e260410c090bb80c0ea0983b,
    0x32290190700c78806234030b00184200c29c060d802fd6817da40bdb205ed202d940169880b2a805944,
    0x3b6d81d87c0ec3a0753b03a8301d1c40e55e0723503bd381c0780dd9606edb035bc819d580ce3606556,
    0x4576822b2c1157e08986044a0821de4107de0835203f9f01f56c0f8f607ab103c6601dd000ee94076f4,
    0x129248100e40803003b9d119ea88a1104509409b1204c05825f6c12cf809276048cc8241c811e7008b8a,
    0x2f480170400b78005e9002e10017a400b82005e9002db8017c800b68005d904fc7027d0c4fda625cd0,
    0x2de00175000b78005d3002de00174800b78005d1002de00174000b70005d0002db80174000b84005bc,
    0x2de00177800b78005dc002de00176c00b78005da002de00176400b78005d8002de00175800b78005d5,
    0x2de0017a400b78005e8002de00179c00b78005e6002de00179000b78005e3002de00178400b78005e0,
    0x885d044294221741109b0885d04426400b7e005e4002df80176c00b7e005d1002dc80175400b78005ea,
    0x8ad78456e02297a114b908a580452e422974114b9089ab844d1c2267c11347088938444c82224e11131,
    0xe8b28745603a2de1d1650e8ac0745b83a2ca1d1580e8b28745603a2ca1d15708c980464d422b5e115b9,
    0xe8b28746e83a2dc1d1650e8dc8745943a3741d1650e8dc8745c83a2ca1d1580e8b88745943a2b01d170,
    0x284c8141e80a00404fbb027b008048809c8204e380271e8745bc3a2ca1d1ba0e8b78745943a3721d16e,
    0x148ef8146b009d98051a4028cb88152c0a31a0516701a5c8814700a2ee05164028aa0818e80693c050cf,
    0x10516014dfc0a6fa05373029ad014d240a60c0530501a8a8149dc0a4e4052460291d80d37c0a406051f5,
    0x2ab181554c0aa20054f602a510151a00a8900543802a4f0150180a7e2053eb105b1814f7c0a79407070,
    0x2c560160c40b0640578b02c06815fd00af9c058ee02b3a0159440ae2e0571602ae10156cc0ab5605584,
    0x1b7e00dbb80b4cc059d802d1381686c0b3d8216ea10b540165880b2440591a02c830163dc0b1e4214e4,
    0x10ef20172340b98005c6001bc08170880bea605c0602dff886c600b7e605bd802de18867200b67c05b08,
    0x2f5800e1f0443060386202f348178f40bc5005dfd01c178177880bbc205d7c02eb58175b843bcc05d43,
    0x2feb817f340bf34038e302fb5817d884c3b4232b801c63817c88104022233102f7f0a8e480bd6c05eb3,
    0x312e81886c0c420061de030d78186900c3640617a030a60185200c18e226d401c8e00e4e80c10205ff9,
    0x323f0191a40745c063a9031e2819088457e2063e4031c1818da00c5f80633d11586018d400c5a8062b1,
    0x4056819a700ce0005195028c900eb900761003b1903324819be00cbc62300a032b600e9b00c8ee0649d,
    0x34f501a68c0d284069140340f81a238468da06852033c2819fe807692233c3033a9819d780ce42043d9,
    0x11e5e01b138475f421d0b11d4681aeec0d73e06b7201e2701ad504714e06b2101e0c01ab6c46d4606aa8,
    0x36fc88fb440dd8e03d330373701b8bc0da6823d1e036c281b5e00dad206d3e0368b01b19c0d99a06cbf,
    0x121d581c670484c6071451029281c2b40e0ee0707d0382500f6580e03607039037e308fe3847ebc06f6e,
    0x3a6501d2140e8b80744701f5c01ce9407d580738b039bd09205048e6a07295039400918200e4a007228,
    0x128998944644a1e4250f30200400fff04a08824fb8127d081d8404433e24c9203a9f0930d80ea4803f1b,
    0x12cbe01e93c0f4940412f03cf5895b144ad34256260207181e1384a83a040960202301de2c0ee3e0771e,
    0x218081f58c4bf0c07d0003e7181f3a00854007cd212e4001089c0f79207bc612dd58108080f5dc25aa7,
    0x132d40201804ca46264da03ffd01fe544c67c07f7a1316c810d644c48e262280219a01f9140fc0407dc7,
    0x41488111ac11f3c08204119ce08ce4c4cf6a267a702d5a8204f8088160810304059010f54466be08070,
    0x41e5020d4c107ce083bd04191820eb4106c60831d1359e020b981057a082b304158814acc1053a0828b,
    0x1386909bec408ac20455d137960215904e79408516042798213c408a5626cd5136b589b0d8107b8083cc,
    0x44300117e411002087e1022eb821e1810ed60872804371021c3810d10086a90433482199c10ca00456b,
    0x46608232ac4f95008c5504550011b1c08d7c2796613c5700d2ec111f4046350446f02235c4ecce08863,
    0x488d8a1cb812222090f10484a0a17b450ba408ed41046f0237c011b7808dcb1040209fcbc11aee08d1b,
    0x148a2825c8c0bb64096c3024f30a35dc12b6e0499504ac58a2fe81282a093f90493e024b60125ae09238,
    0x25e70267f813384099a704c94812ccc131c4295b604c148a5258095642940a04bf00129d8094dc2921a,
    0x4f82827bf813df204d5604f5d8a8a445441c2a1050267c0a833813ace04ced026670273f41388029b30,
    0x15300027cec13e2c09f0f]

/-- Rows `character, offset, length` for the characters whose compatibility decomposition differs
from the canonical one: where it stands in `compatiblePool`. -/
def compatibleRows : PackedTable where
  bits := 21
  width := 3
  rows := 3750
  words := #[
    0x598000040000c000b2000010000100015e00001000018002a800004000010005400000400000000a0,
    0x70002e8000020000d0005c80000800016000b8000008000280016a00002000040002d00000200007,
    0x100006800266000020000c0004c800006000150005f00000c00024000bd0000180003c0017800001,
    0xe280000c00046001c400000800088002fe0000200010000524000040001e000a0000008000380013f,
    0x190007280000400030000e48000080005c001c8000010000b00038e00003000148007180000600026,
    0x10000f0003e6000020001d0007c80000400038000f88000080006c001cc000010000d00039600002,
    0x15a80000400084002b400000800104005660000100020000ac8000020003f001588000040007c002b0,
    0x24800b6400004000470016c0000040008c002b8000008001140056e0000100022000ad80000200043,
    0x80014c005c00000200028800b74000040004f0016e0000080009a002db0000100012c005b400002,
    0x1c2000008000ae0037a00000800158005c8000010002a800b8c000020002200171000004000a8002e1,
    0x2f800f4c000020005e001e9000004000ba003d100000800170007a0000030002c800e140000400008,
    0x800198007e20000100032800fc00000200064001eb000004000c6003d500001000184007a800002,
    0x33a800008000d600587000008001a8007f20000100034800fd40000200068001fa000004000ce003f2,
    0x3b803acc000040007500719800008000e600678000010001c400cee00002000378019d8000040006d,
    0x180020401ef2000030003f003ddc000020007d00786000008000f600edd000010001e401db800002,
    0xe988000040011001d300000080021c03a5c00001000430074b4000020008500e9600000400108010fc,
    0x470074d8000020008d00e9a8000040011801d340000080022c03a6600001000450074c80000200089,
    0x80024c03a7800001000490074e8000020009100e9c8000040012001d380000080023c03a6e00001,
    0xea10000040013001d410000080025c03a80000010004b0074fc000020009500e9f0000040012801d3d,
    0x4e80751c000020009c00ea30000040013601d450000080026803a88000010000180750c0000200099,
    0x80028803a98000010005080752c00002000a000ea50000040013e01d490000080027803a9000001,
    0xea98000040001c01d520000080029803aa2000010005280754000002000a400ea78000040014601d4d,
    0x5600756000002000ab00eab8000040015401d56000008002a403aaa000010005400755000002000a7,
    0x80017003aba000010005800757000002000af00ead8000040015c01d5a000008002b403ab200001,
    0xeb18000040016801d62000008002cc03ac2000010003180758000002000b200eaf8000040016201d5e,
    0x330075a000002000b100eb3800004000b801d66000008002bc03aca00001000560075900000200041,
    0x8002dc03b38000010005b00766c00002000b500ebc0000040016601d6a0000080018c03ad200001,
    0xed10000040017601da1000008002e803b40000010005100767c00002000b900ecf0000040017001d9d,
    0x6080769c00002000c000ed30000040017e01da5000008002f803b48000010005e80768c00002000bc,
    0x80031803b5800001000628076ac00002000c400ed50000040018601da90000080030803b5000001,
    0xed90000040019601db10000080032803b6000001000648076bc00002000c800ed70000040018e01dad,
    0x688076dc00002000d000edb0000040019e01db50000080033803b6800001000668076cc00002000cc,
    0x80035803b78000010006a8076ec00002000d400edd000004001a601db90000080034803b7000001,
    0xfde800008001b601e9b0000100036403d34000010002e8076fc00002000d800edf000004001ae01dbd,
    0x73807f3800006000e400fe680000c001c201fc10000100037c03f80000020006e807efc00004000dd,
    0x18003d803fda0000300079807f7c00006000f000fef00000c001da01fdd000018003a803f9e00003,
    0x100100000400000020010000080000004000000020007c807ff8000040000800ffe80000c000b201fee,
    0x801c00002000000100300000400000020050000080000004008000010000000800c0000200000,
    0x10003f00402e000010007d8080440000200000010050000040000002009000008000000401000001,
    0x101a0000080020802033000008000000405e000030008080809800004000ff01012800004001fc02024,
    0x8900811c00004001100101f0000080021c0203c0000180042c0406e00002000848080d80000600106,
    0x800470040e0000010000000817c00008001180102b8000080022c02049000010004500409000002,
    0x103c00000400240020770000080047c040ec000010008f0081d4000020011d0103a0000040016802071,
    0x930081f400002001250103e000004002480207b0000080048c040f400001000910081e40000200121,
    0x800018041040000100006808204000020011c01040000004002500207f0000080049c040fc00001,
    0x104400000400240020870000080047c0410c000010008f008214000020011d010420000040000e02083,
    0x93008234000020012501046000004002480208b0000080048c0411400001000910082240000200121,
    0x800154041260000100007008248000020009f0104880000400006020900000080049c0411c00001,
    0x104c8000040014a02098000008001500412e0000100052008258000020003e0104a8000040014002094,
    0x95808400000040012901054000004001560209c000008000880413600001000550082680000200128,
    0x18004dc0420c000030009a0084140000400132010818000040026202102000018004b80420200003,
    0x1086800004001180210c00000800230042160000100051808428000040013b010848000040027402107,
    0x48008448000020008d010888000040011a02110000008004f40421e000010001f008438000020008c,
    0x80050004234000010004a808464000040013e0108b0000040012402115000008001500422600001,
    0x109100000c00286021210000100050404240000010004b00847400002000960108e0000040012c0211b,
    0x4f8084bc0000200131010968000040010e0212c000008005200425000001000a40084900000400146,
    0x8005280426a00001000070084d00000200091010998000040029202131000008002240426000001,
    0x109e00000c0029c0213b000008002d00427200001000a68084e0000020014c0109b8000040029602136,
    0x440085140000200153010a0000004002a40213f000008005440427c00001000588084f40000200064,
    0x1800550042a0000010002000852400002000b4010a40000040013e02147000008002780428c00001,
    0x10ab00000c002c80215500001800584042a800003000af00854c000080015a010a900000c002ae02151,
    0xbb00856c0000600173010ad00000c002e002159000018005b4042b000003000b500855c0000600167,
    0x800234042c000002000c100857c000060017f010af00000c002f80215d000018005e4042b800003,
    0x10b300000800318021650000080062c042c800002000c480858c0000600186010b10000080030802161,
    0xcd0085ac0000400198010b50000040032e0216900001000654042d000004000c880859c000060018e,
    0x8002d0042e000001000488085bc0000200088010b7000004002620216d00000800240042d800003,
    0x10bb0000080034802175000008002bc042e800002000d10085cc000060019f010b90000080033a02171,
    0xd88085ec00004001af010bd000004000aa02179000010006b4042f000004000d48085dc00006001a6,
    0x18006d00431200001000528085fc000020009e010bf0000040016e0217d00000800150042f800003,
    0x12308000040001a02460000018006f80446000002000de0088bc00006001b9011168000080036e0222c,
    0x90009198000020011f012328000040023c0246400000800474048c600001000038091880000200006,
    0x1000714048d600002000e18091a800004001c101234800004002440246800000800484048ce00001,
    0x12388000080039e0247000001000734048de00002000e58091b800004001c9012368000080038e0246c,
    0xee8091d800006001da0123a80000c003ae0247400001000754048e600002000e98091c800004001d1,
    0x18007b0048f600003000f48091e800006001e60123c80000c003c60247800001800780048ee00003,
    0x1240800010003fc02480000020007e8048fe00004000fb0091f800008001f20123e80000c003de0247c,
    0x10b0092180000800212012428000100041c02484000020008280490600004001030092080000800202,
    0x10008900491600002001110092280000400220012448000080043c02488000020008680490e00004,
    0x12488000080045c02490000010008b00491e00002001150092380000400228012468000080044c0248c,
    0x11f809258000060023c0124a80000c0047202494000018008d80492600003001198092480000600230,
    0x180093804936000030012580926800006002480124c80000c0048a02498000018009080492e00003,
    0x125080000c004ba024a0000018009680493e000030012b80927800006002540124e80000c004a20249c,
    0x137809298000060026c0125280000c004d2024a4000018009980494600003001318092880000600260,
    0x18009f804956000030013d8092a800006002780125480000c004ea024a8000018009c80494e00003,
    0x125880000c0051a024b000001800a280495e00003001438092b800006002840125680000c00502024ac,
    0x428092d8000060029c0125a80000c00532024b400001800a580496600003001498092c80000600290,
    0x8005240497600001000448092e800002000880125c80000400262024b80000080021c0496e00001,
    0x12608000040011e024c0000008002380497e00001000468092f8000020008c0125e80000400116024bc,
    0xa000931800002000950126280000400126024c4000008002480498600001000488093080000200090,
    0x80062c04996000010004c0093280000200097012648000040053e024c8000008002580498e00001,
    0x126880000400006024d0000008005200499e000010015000933800002001970126680000400132024cc,
    0x5180935800002000ba0126a8000040013e024d400000800278049a6000010005b809348000020009d,
    0x800150049b6000010005200936800002000400126c80000400168024d8000008000f8049ae00001,
    0x127080000400542024e0000008002a8049be000010000700937800002001280126e8000040014a024dc,
    0x2280939800002000af0127280000400158024e4000008002ac049c600001000110093880000200041,
    0x2000a8805418000010008e0093a800002000d5012748000040008c024e800000800154049ce00001,
    0x16b78000040031602c7d00000800100058f8000030015580a9d800004002a90153a80000c0054c02a74,
    0x15980bc0800002002b2017808000040056202f0000000800ac005de6000010015780ba7c00002002ae,
    0x800ae005e0e000010015b80bc1800002002b6017828000040056a02f0400000800ad005e0600001,
    0x17868000040057a02f0c00000800af005e16000010015d80bc2800002002ba017848000040057202f08,
    0x16180bc4800002002c2017888000040058202f1000000800b0005e1e000010015f80bc3800002002be,
    0x800b2005e2e000010016380bc5800002002c60178a8000040058a02f1400000800b1005e2600001,
    0x178e8000040059a02f1c00000800b3005e36000010016580bc6800002002ca0178c8000040059202f18,
    0x16980bc8800002002d201790800004005a202f2000000800b4005e3e000010016780bc7800002002ce,
    0x800b6005e4e000010016b80bc9800002002d601792800004005aa02f2400000800b5005e4600001,
    0x1796800004005ba02f2c00000800b7005e56000010016d80bca800002002da01794800004005b202f28,
    0x17180bcc800002002e201798800004005c202f3000000800b8005e5e000010016f80bcb800002002de,
    0x800ba005e6e000010017380bcd800002002e60179a800004005ca02f3400000800b9005e6600001,
    0x179e800004005da02f3c00000800bb005e76000010017580bce800002002ea0179c800004005d202f38,
    0x17980bd0800002002f2017a0800004005e202f4000000800bc005e7e000010017780bcf800002002ee,
    0x800be005e8e000010017b80bd1800002002f6017a2800004005ea02f4400000800bd005e8600001,
    0x17a6800004005fa02f4c00000800bf005e96000010017d80bd2800002002fa017a4800004005f202f48,
    0x18180bd480000200302017a88000040060202f5000000800c0005e9e000010017f80bd3800002002fe,
    0x800c2005eae000010018380bd580000200306017aa8000040060a02f5400000800c1005ea600001,
    0x17ae8000040061a02f5c00000800c3005eb6000010018580bd68000020030a017ac8000040061202f58,
    0x18980bd880000200312017b08000040062202f6000000800c4005ebe000010018780bd78000020030e,
    0x800c6005ece000010018b80bd980000200316017b28000040062a02f6400000800c5005ec600001,
    0x17b68000040063a02f6c00000800c7005ed6000010018d80bda8000020031a017b48000040063202f68,
    0x19180bdc80000200322017b88000040064202f7000000800c8005ede000010018f80bdb8000020031e,
    0x800ca005eee000010019380bdd80000200326017ba8000040064a02f7400000800c9005ee600001,
    0x17be8000040065a02f7c00000800cb005ef6000010019580bde8000020032a017bc8000040065202f78,
    0x19980be080000200332017c08000040066202f8000000800cc005efe000010019780bdf8000020032e,
    0x800ce005f0e000010019b80be180000200336017c28000040066a02f8400000800cd005f0600001,
    0x17c68000040067a02f8c00000800cf005f16000010019d80be28000020033a017c48000040067202f88,
    0x1a180be480000200342017c88000040068202f9000000800d0005f1e000010019f80be38000020033e,
    0x800d2005f2e00001001a380be580000200346017ca8000040068a02f9400000800d1005f2600001,
    0x17ce8000040069a02f9c00000800d3005f3600001001a580be68000020034a017cc8000040069202f98,
    0x1a980be880000200352017d0800004006a202fa000000800d4005f3e00001001a780be78000020034e,
    0x800d6005f4e00001001ab80be980000200356017d2800004006aa02fa400000800d5005f4600001,
    0x17d6800004006ba02fac00000800d7005f5600001001ad80bea8000020035a017d4800004006b202fa8,
    0x1b180bec80000200362017d8800004006c202fb000000800d8005f5e00001001af80beb8000020035e,
    0x800da005f6e00001001b380bed80000200366017da800004006ca02fb400000800d9005f6600001,
    0x17de800004006da02fbc00000800db005f7600001001b580bee8000020036a017dc800004006d202fb8,
    0x1b980bf080000200372017e0800004006e202fc000000800dc005f7e00001001b780bef8000020036e,
    0x800de005f8e00001001bb80bf180000200376017e2800004006ea02fc400000800dd005f8600001,
    0x17e6800004006fa02fcc00000800df005f9600001001bd80bf28000020037a017e4800004006f202fc8,
    0x1c180bf480000200382017e88000040070202fd000000800e0005f9e00001001bf80bf38000020037e,
    0x800e1c0606c000010000000c0000000200386017ea8000040070a02fd400000800e1005fa600001,
    0x184f800008007180309c00001000e280613600001001c480c0e800002003880181c8000040059003038,
    0x1ca80c4d0000020039401899800004007260313200000800e480626200002001c800c3fc000040038e,
    0x800e680627200001001cc80c4e000002003980189b8000040072e0313600000800e580626a00001,
    0x189f8000040073e0313e00000800e780627a00001001ce80c4f0000020039c0189d800004007360313a,
    0x1d280c51000002003a4018a1800004007460314200000800e880628200001001d080c50000002003a0,
    0x800ea80629200001001d480c52000002003a8018a38000040074e0314600000800e980628a00001,
    0x18a78000040075e0314e00000800eb80629a00001001d680c53000002003ac018a5800004007560314a,
    0x1da80c55000002003b4018a9800004007660315200000800ec8062a200001001d880c54000002003b0,
    0x800ee8062b200001001dc80c56000002003b8018ab8000040076e0315600000800ed8062aa00001,
    0x18af8000040077e0315e00000800ef8062ba00001001de80c57000002003bc018ad800004007760315a,
    0x1e280c59000002003c4018b1800004007860316200000800f08062c200001001e080c58000002003c0,
    0x800f28062d200001001e480c5a000002003c8018b38000040078e0316600000800f18062ca00001,
    0x18b78000040079e0316e00000800f38062da00001001e680c5b000002003cc018b5800004007960316a,
    0x1ea80c5d000002003d4018b9800004007a60317200000800f48062e200001001e880c5c000002003d0,
    0x800f68062f200001001ec80c5e000002003d8018bb800004007ae0317600000800f58062ea00001,
    0x18bf800004007be0317e00000800f78062fa00001001ee80c5f000002003dc018bd800004007b60317a,
    0x1f280c61000002003e4018c1800004007c60318200000800f880630200001001f080c60000002003e0,
    0x800fa80631200001001f480c62000002003e8018c3800004007ce0318600000800f980630a00001,
    0x18c9000004007de0318e00000800fb80631a00001001f680c63000002003ec018c5800004007d60318a,
    0x1f980c65c00002003f2018cb000004007e20319500000800fc006328000010015b80c64c00002002b1,
    0x800fdc0633800001001fb00c66c00002002b5018cd000004007ea0319900000800fd00633000001,
    0x190100000c007fa0320100001800fe806400000010015c80c67c00002003f9018cf000004007f00319d,
    0x20780c81c000060040c0190300000c00812032050000180101806408000030020180c80c0000600400,
    0x180107806418000030020d80c82c00006004180190500000c0082a03209000018010480641000003,
    0x19090000100086003211000020010b006420000040021400c83c00008004240190700000c008420320d,
    0x22400c85c00008004440190b0000100088003215000020010f006428000040021c00c84c0000800434,
    0x200117006438000040022c00c86c00008004540190d000010008a003219000020011300643000004,
    0x191180000c008e603222000018011c006442000030023680c8800000c004670190f00001c008c00321d,
    0x24280c8a000006004820191380000c008fe03226000018011f00644a000030023c80c8900000600476,
    0x18012500645a000030024880c8b0000060048e0191580000c009160322a000018012200645200003,
    0x191980000c00946032320000180128006462000030024e80c8c0000060049a0191780000c0092e0322e,
    0x25a80c8e000006004b20191b80000c0095e03236000018012b00646a000030025480c8d000006004a6,
    0x18013100647a000030026080c8f000006004be0191d80000c009760323a000018012e00647200003,
    0x192180000c009a6032420000180134006482000030026680c90000006004ca0191f80000c0098e0323e,
    0x26e00c94000002004db01923800004005e603246000008013680648a000010026c80c91000006004d6,
    0x100139c064aa000020027280c95000004004e301929800008009c2032520000100137c064a200003,
    0x192d800008009e20325a000010013bc064b2000020027680c96000004004eb0192b800008009d203256,
    0x1c900c98000004004fb0192f800008009f20325e000010013dc064ba000020027a80c97000004004f3,
    0x800e8c064ca00001001d100c990000020039a01931800004007300326200000800e54064c200001,
    0x1935800004007580326a00000800eac064d200001001d480c9a000002003a8019338000040074c03266,
    0x28080c9c000004004ff01937800008009fa0326e00000800ebc064da00001001d700c9b000002003ad,
    0x100142c064ea000020028480c9d000004005070193980000800a0a032720000100140c064e200002,
    0x193d80000800a2a0327a0000100144c064f2000020028880c9e0000040050f0193b80000800a1a03276,
    0x15b80ca0400002002b10194000000800a440327e00002001478064fa000050028c80c9f00000400517,
    0x8014980650c000010029280ca14000020052401942000004007e20328300000800fc00650400001,
    0x19460000040060c0328b00000800be806514000010016400ca240000200527019440000040057803287,
    0x29400ca4400002002f801948000004005a00328f00000800d5c0651c000010017d80ca340000200305,
    0x8014b40652c000010029600ca54000020052b0194a00000400a5403293000008014a40652400001,
    0x194e000004005ac0329b000008014c406534000010029800ca64000020052f0194c00000400a5c03297,
    0x29b80ca8400002005360195000000400a6a0329f000008014d00653c000010029980ca740000200532,
    0x800fd00654c00001001f980ca9400002003f20195200000400a72032a3000008014e00654400001,
    0x195600000400a7c032ab000008014f406554000010029e00caa4000020053b0195400000400a74032a7,
    0x2a200cac400002005430195800000400a84032af000008015040655c00001002a000cab4000020053f,
    0x10015380656c00002002a600cad4000040054a0195a00000800a90032b3000010015180656400002,
    0x195e00000800ab0032bb000010015580657400002002aa00cae400004005520195c00000800aa0032b7,
    0x2b200cb0400004005620196000000800ac0032bf000010015780657c00002002ae00caf4000040055a,
    0x10015b80658c00002002b600cb14000040056a0196200000800ad0032c3000010015980658400002,
    0x196600000c00af4032cb000018015dc0659400003002ba00cb2400004005720196400000800ae0032c7,
    0x2c400cb4400002005870196800000c00b08032cf000010016080659c00003002bf80cb34000040057d,
    0x801634065ac00001002c600cb54000020058b0196a00000400b14032d300000801624065a400001,
    0x196e00000400b24032db00000801644065b400001002c800cb64000020058f0196c00000400b1c032d7,
    0x2cc00cb8400002005970197000000400b2c032df00000801654065bc00001002ca00cb740000200593,
    0x801674065cc00001002ce00cb94000020059b0197200000400b34032e300000801664065c400001,
    0x197600000400b44032eb00000801684065d400001002d000cba4000020059f0197400000400b3c032e7,
    0x2d400cbc400002005a70197800000400b4c032ef00000801694065dc00001002d200cbb400002005a3,
    0x8016b4065ec00001002d600cbd400002005ab0197a00000400b54032f3000008016a4065e400001,
    0x197e00000400b64032fb000008016c4065f400001002d800cbe400002005af0197c00000400b5c032f7,
    0x2de80cc040000a005b80198000000800b6c032ff000008016d4065fc00001002da00cbf400002005b3,
    0x18017440660c00003002e700cc140000a005c90198200000c00b8c03303000028017040660400004,
    0x198600000c00bc80330b000018017840661400003002ef00cc2400008005da0198400001800ba803307,
    0x2fd80cc4400008005f70198800001000be60330f000020017bc0661c00004002f580cc3400008005e7,
    0x30018440662c000060030580cc5400004006090198a00001800c0603313000020017fc0662400004,
    0x198e00001000c580331b0000300189806634000060031000cc64000080061c0198c00001400c2e03317,
    0x32180cc840000a0063e0199000001000c740331f000020018d80663c000030031980cc740000600630,
    0x18019540664c000030032900cc94000080064e0199200000c00c9603323000018019200664400005,
    0x199600001800cc40332b0000180197c06654000030032e00cca4000040065a0199400000800cb003327,
    0x33f00ccc4000060067b0199800001000cee0332f000030019c40665c000050033600ccb40000800668,
    0x2801a500666c000030034880ccd40000c0068b0199a00001000d0e0333300003001a040666400003,
    0x199e00001400d4e0333b00002001a8c06674000030035000cce4000080069c0199c00000c00d3203337,
    0x36000cd040000a006bb019a000000800d720333f00002001ad40667c000050035800ccf400008006ac,
    0x1801b400668c000030036680cd1400006006ca019a200001000d8c0334300001801b0c0668400003,
    0x19a600000c00dc80334b00003001b7806694000020036e00cd2400008006d8019a400001400da603347,
    0x37d00cd4400006006f7019a800000c00de80334f00002001bc00669c000040037600cd340000a006e7,
    0x3001c2c066ac000020038480cd540000a00704019aa00001000e000335300001001bf8066a400004,
    0x19ae00000800e340335b00001001c60066b4000020038b00cd640000400714019ac00000c00e2203357,
    0x39300cd840000400724019b000000800e440335f00001001c80066bc000020038f00cd74000040071c,
    0x1801cd0066cc000030039880cd94000060072e019b200000c00e560336300001801ca0066c400002,
    0x19b600000c00e860336b00001801d00066d4000030039e80cda4000060073a019b400000c00e6e03367,
    0x3aa80cdc40000600752019b800000c00e9e0336f00001801d30066dc00003003a480cdb40000600746,
    0x1001d84066ec00002003af80cdd4000060075c019ba00000800eb40337300001001d60066e400003,
    0x19be00000800eda0337b00001001dac066f400003003b400cde40000600765019bc00000800ec603377,
    0x3bd80ce040000400779019c000001000eea0337f00001001dcc066fc00002003b880cdf4000040076f,
    0x1001e140670c00002003c180ce140000400781019c200000800efe0338300001001df40670400002,
    0x19c600000800f240338b00001001e400671400004003c600ce240000600789019c400000800f0e03387,
    0x3cf00ce44000040079c019c800000800f340338f00001001e600671c00002003cb00ce340000400794,
    0x1001eb00672c00002003d500ce5400006007a7019ca00000c00f480339300001801e840672400003,
    0x19ce00000800f6c0339b00001001ed00673400002003d900ce6400004007b0019cc00000800f5c03397,
    0x3e200ce8400006007c1019d000000c00f7c0339f00001001ef00673c00002003dd00ce7400004007b8,
    0x1801f440674c00002003e780ce9400006007cc019d200000c00f92033a300001801f180674400002,
    0x19d600000c00fc0033ab00001801f740675400002003ed80cea400008007d7019d400000c00fa8033a7,
    0x3fb00cec400004007f4019d800001800fdc033af00002801fa40675c00003003f300ceb400006007e3,
    0x10020000676c00002003ff00ced400004007fc019da00000800ff4033b300001001fe00676400002,
    0x19de00000801014033bb0000100202006774000020040300cee40000400804019dc00000801004033b7,
    0x40b00cf040000400814019e000000801024033bf000010020400677c000020040700cef4000040080c,
    0x20020880678c000020041000cf14000040081e019e200000801038033c3000020020600678400002,
    0x19e60000080105e033cb000010020b406794000020041580cf240000400829019e400000c0104c033c7,
    0x41d80cf440000400839019e80000080106e033cf000010020d40679c000020041980cf340000400831,
    0x180211c067ac000030042200cf540000400842019ea00000801080033d3000018020f4067a400002,
    0x19ee000008010aa033db0000100214c067b4000030042800cf64000080084c019ec00000801094033d7,
    0x43180cf840000400861019f000000c010bc033df0000180216c067bc000020042c80cf740000400857,
    0x10021b4067cc000020043580cf940000400869019f2000008010ce033e300001002194067c400002,
    0x19f600000c010f2033eb000018021d8067d4000030043980cfa40000400871019f4000008010de033e7,
    0x44580cfc40000600888019f800000c0110a033ef00001802208067dc000030043f80cfb4000060087c,
    0x1802268067ec000030044b80cfd40000600894019fa00000c01122033f300001802238067e400003,
    0x19fe00000c01152033fb00001802298067f4000030045180cfe400006008a0019fc00000c0113a033f7,
    0x45c829a7400002008b80534e00000c0116a033ff000018022c8067fc000030045780cff400006008ac,
    0x8022ec14ff000001000a0029fd00000200149053f9800004002620a7f2000008022e814ee000001,
    0x55b4800004011800ab5f000008022fc156bc000010045f02ad7400002008bd055ae000004011780a7f9,
    0x46583ec1000006008c807d818000080118c0fb02000010023101f602000020046103ec0000002008c1,
    0x10023501f62a000020046903ec5000004008d007d898000080119c0fb06000010023381f60a00003,
    0x7d918000040029a0fb22000008005281f642000010046d03ec8000004008d807d8b800008011ac0fb16,
    0x47003eca000002008df07d93800004011bc0fb26000008023741f64a000010046e03ec9000002008db,
    0x8023901f6a4000010047183ed4400002008e307da8000008011c20fb4f0000080048c1f65200001,
    0x7dac000004011ca0fb57000008023941f6ac000010047203ed5400002008e407daa000004011c80fb53,
    0x47303ed7400002008e607dae000004011cc0fb5b000008023981f6b4000010047283ed6400002008e5,
    0x8023a01f6c4000010047383ed8400002008e707db0000004011ce0fb5f0000080239c1f6bc00001,
    0x7db4000004011d20fb67000008023a41f6cc000010047403ed9400002008e807db2000004011d00fb63,
    0x47503edb400002008ea07db6000004011d40fb6b000008023a81f6d4000010047483eda400002008e9,
    0x8023b01f6e4000010047583edc400002008eb07db8000004011d60fb6f000008023ac1f6dc00001,
    0x7dbc000004011da0fb77000008023b41f6ec000010047603edd400002008ec07dba000004011d80fb73,
    0x47703edf400002008ee07dbe000004011dc0fb7b000008023b81f6f4000010047683ede400002008ed,
    0x8023c01f704000010047783ee0400002008ef07dc0000004011de0fb7f000008023bc1f6fc00001,
    0x7dc4000004011e40fb87000008023c81f70c000010047883ee1400002008f107dc2000004011e00fb83,
    0x47a83ee3400002008f507dc6000004011e80fb8b000008023d01f714000010047983ee2400002008f3,
    0x8023dc1f724000010047b03ee4400002008f607dc8000004011ec0fb8f000008023d81f71c00001,
    0x7dcc000004011f00fb97000008023e01f72c000010047b83ee5400002008f707dca000004011ee0fb93,
    0x47c83ee7400002008f907dce000004011f20fb9b000008023e41f734000010047c03ee6400002008f8,
    0x8023ec1f744000010047d83ee8400002008fb07dd0000004011f40fb9f000008023e81f73c00001,
    0x7dd4000004011fc0fba7000008023f81f74c000020047e03ee9400004008fc07dd2000004011f60fba3,
    0x47f83eeb400002008ff07dd6000004011fe0fbab000008023fc1f754000010047f03eea400002008fe,
    0x80240c1f7a6000020048083eec4000040090107dd8000004012000fbaf000008024001f75c00001,
    0x7dec800004012080fbd8000008024101f7ae000010048183ef58000020090307dea800004012060fbd4,
    0x48383ef78000040007107dee8000040120c0fbdc000008024181f7b6000010048283ef680000200905,
    0x8024241f7c6000010048483ef88000020090807df0800004012100fbe00000080241c1f7be00001,
    0x7df4800004012160fbe8000008024281f7ce000010048503ef98000020090a07df2800004012140fbe4,
    0x48903efb8000060090f07df680000c0121e0fbec000018024301f7d6000030048603efa8000020090b,
    0x18024601f7e6000030048c03efc8000060091507df880000c0122a0fbf0000018024481f7de00003,
    0x7dfc80000c0123c0fbf8000018024781f7ee000030048f03efd8000060091b07dfa80000c012360fbf4,
    0x49203eff8000020092407dfe800004012480fbfc000018024841f7f6000030049083efe80000600921,
    0x18024841f806000030049583f008000060092807e0080000c0124a0fc00000008024901f7fe00001,
    0x7e048000080126e0fc08000010024d41f80e000020049983f018000040093107e0280000c0125c0fc04,
    0x4a183f038000040094107e068000080127e0fc0c000010024f41f816000020049d83f0280000400939,
    0x10025341f82600002004a583f048000040094907e088000080128e0fc10000010025141f81e00002,
    0x7e0c800008012ae0fc18000010025541f82e00002004a983f058000040095107e0a8000080129e0fc14,
    0x4b183f078000040096107e0e800008012be0fc1c000010025741f83600002004ad83f0680000400959,
    0x10025b41f84600002004b583f088000040096907e10800008012ce0fc20000010025941f83e00002,
    0x7e14800008012ee0fc28000010025d41f84e00002004b983f098000040097107e12800008012de0fc24,
    0x4c183f0b8000040098107e16800008012fe0fc2c000010025f41f85600002004bd83f0a80000400979,
    0x10026341f86600002004c583f0c8000040098907e188000080130e0fc30000010026141f85e00002,
    0x7e1c8000080132e0fc38000010026541f86e00002004c983f0d8000040099107e1a8000080131e0fc34,
    0x4d183f0f800004009a107e1e8000080133e0fc3c000010026741f87600002004cd83f0e80000400999,
    0x10026b41f88600002004d583f10800004009a907e208000080134e0fc40000010026941f87e00002,
    0x7e248000080136e0fc48000010026d41f88e00002004d983f11800004009b107e228000080135e0fc44,
    0x4e183f13800004009c107e268000080137e0fc4c000010026f41f89600002004dd83f12800004009b9,
    0x10027341f8a600002004e583f14800004009c907e288000080138e0fc50000010027141f89e00002,
    0x7e2c800008013ae0fc58000010027541f8ae00002004e983f15800004009d107e2a8000080139e0fc54,
    0x4f183f17800004009e107e2e800008013be0fc5c000010027741f8b600002004ed83f16800004009d9,
    0x18027c81f8c600003004f783f18800006009ec07e3080000c013d20fc60000018027981f8be00003,
    0x7e3480000c012420fc68000018027ec1f8ce000030049583f19800006009f807e3280000c013ea0fc64,
    0x49c83f1b80000400a0207e368000080126e0fc6c000010028001f8d600002004ff03f1a8000060092e,
    0x10028201f8e600002004a183f1c80000400a0607e38800008014080fc70000010024ec1f8de00002,
    0x7e3c800008012960fc78000010028301f8ee000020050503f1d8000040094707e3a8000080128a0fc74,
    0x4c883f1f8000040098b07e3e800008013120fc7c0000100253c1f8f600002004a683f1e80000400a0e,
    0x10026841f90600002004cf83f208000040099d07e408000080132a0fc800000100264c1f8fe00002,
    0x7e44800008014200fc88000010026bc1f90e00002004d683f21800004009ab07e42800008013460fc84,
    0x4e283f2380000400a1607e46800008013860fc8c000010028501f916000020050903f22800004009b7,
    0x100275c1f926000020050d03f2480000400a1807e48800008013c20fc900000100271c1f91e00002,
    0x7e4c80000c012500fc98000018024941f92e00002004ed83f25800004009d907e4a800008014380fc94,
    0x49a83f278000040093307e4e800008012620fc9c000018028841f936000030049583f2680000600a1e,
    0x10025041f946000020049f83f288000040093d07e50800008014480fca0000010024dc1f93e00002,
    0x7e54800008012a60fca8000010025441f94e00002004a583f2980000400a2607e52800008012860fca4,
    0x4b083f2b8000040095f07e56800008012ba0fcac000010025641f95600002004ab83f2a80000400955,
    0x10025a41f966000020051403f2c8000040096707e58800008012ca0fcb00000100258c1f95e00002,
    0x7e5c800008012e60fcb8000010025c41f96e00002004b783f2d8000040096d07e5a800008012d60fcb4,
    0x4c083f2f8000040097f07e5e800008012fa0fcbc000010025ec1f97600002004bc83f2e80000400977,
    0x100263c1f98600002004c683f308000040098707e608000080130a0fcc00000100260c1f97e00002,
    0x7e648000080133e0fcc8000010026741f98e00002004cd83f318000040099907e628000080132e0fcc4,
    0x4d883f3380000400a2a07e66800008013560fccc000010026a41f99600002004d383f32800004009a5,
    0x10026fc1f9a600002004de83f34800004009b707e688000080136a0fcd0000010026cc1f99e00002,
    0x7e6c800008013960fcd8000010027241f9ae000020051603f35800004009c307e6a800008013820fcd4,
    0x51803f37800004009d707e6e800008013aa0fcdc0000100274c1f9b600002004e883f3680000400a2e,
    0x100250c1f9c6000020051203f388000040093707e7080000c014420fce0000018024ac1f9be00002,
    0x7e74800008014680fce8000010025941f9ce000020051903f398000040094b07e728000080144c0fce4,
    0x4e183f3b800004009ab07e768000080133e0fcec000010026741f9d6000020051c03f3a80000400a36,
    0x18028f41f9e6000030051d03f3c80000400a3007e78800008013ae0fcf0000010028b01f9de00002,
    0x7e7c800008014920fcf80000100291c1f9ee000020052283f3d80000400a4307e7a80000c014800fcf4,
    0x52a83f3f80000400a5307e7e800008014a20fcfc0000100293c1f9f6000020052683f3e80000400a4b,
    0x100297c1fa06000020052e83f4080000400a5b07e80800008014b20fd000000100295c1f9fe00002,
    0x7e84800008014d20fd080000100299c1fa0e000020053283f4180000400a6307e82800008014c20fd04,
    0x53983f4380000400a7107e868000080146c0fd0c000010029bc1fa16000020053683f4280000400a6b,
    0x100291c1fa26000020052283f4480000400a4307e88800008014ee0fd10000010029d41fa1e00002,
    0x7e8c800008014a20fd180000100293c1fa2e000020052683f4580000400a4b07e8a800008014920fd14,
    0x52e83f4780000400a5b07e8e800008014b20fd1c0000100295c1fa36000020052a83f4680000400a53,
    0x100299c1fa46000020053283f4880000400a6307e90800008014c20fd200000100297c1fa3e00002,
    0x7e948000080146c0fd28000010029bc1fa4e000020053683f4980000400a6b07e92800008014d20fd24,
    0x53683f4b80000400a6b07e96800008014ee0fd2c000010029d41fa56000020053983f4a80000400a71,
    0x10025d41fa66000020051c03f4c80000400a3407e988000080146c0fd30000010029bc1fa5e00002,
    0x7e9c800008014da0fd38000010029ac1fa6e00002004b183f4d8000040096107e9a800008012be0fd34,
    0x53d83f5400000400a7907e9e800008014f20fd3c000010025dc1fa7600002004ba83f4e80000400a6f,
    0x1802a1c1faaa000030054203f5500000600a8107ea980000c014fc0fd52000018029f81faa200003,
    0x7ead80000c015260fd5a00001802a401fab2000030054803f5600000600a8d07eab80000c015140fd56,
    0x55103f5800000600aa207eaf80000c0153e0fd5e00001802a701faba000030054c83f5700000600a96,
    0x1802aac1faca000030055583f5900000600aa807eb180000c015500fd6200001802a941fac200003,
    0x7eb580000c0156e0fd6a00001802ad01fad2000030055883f5a00000600ab107eb380000c0155c0fd66,
    0x56003f5c00000600ac007eb780000c0157a0fd6e00001802ae81fada000030055d03f5b00000600ab7,
    0x1802b301faea000030056483f5d00000600ac607eb980000c015860fd7200001802b0c1fae200003,
    0x7ebd80000c015b00fd7a00001802b541faf2000030056903f5e00000600acf07ebb80000c0159e0fd76,
    0x57383f6000000600ae407ebf80000c015c20fd7e00001802b781fafa000030056f03f5f00000600adb,
    0x1802bcc1fb0a000030057803f6100000600af007ec180000c015da0fd8200001802ba81fb0200003,
    0x7ec580000c015f80fd8a00001802be41fb12000030057b03f6200000600af607ec380000c015e60fd86,
    0x58703f6480000600b0b07ec780000c016100fd8e00001802c141fb1a000030058103f6300000600aff,
    0x1802c741fb2e000030058d03f6580000600b1707eca80000c016280fd9400001802c441fb2600003,
    0x7ece80000c016520fd9c00001802c981fb36000030059183f6680000600b2007ecc80000c0163a0fd98,
    0x59c03f6880000600b3507ed080000c016640fda000001802cbc1fb3e000030059603f6780000600b29,
    0x1802d1c1fb4e00003005a203f6980000600b4107ed280000c0167c0fda400001802cec1fb4600003,
    0x7ed680000c016ac0fdac00001802d4c1fb5600003005a803f6a80000600b4d07ed480000c016940fda8,
    0x5b403f6c80000600b6507ed880000c016c40fdb000001802d7c1fb5e00003005ae03f6b80000600b59,
    0x1802dc41fb6e00003005b703f6d80000600ae707eda80000c015c20fdb400001802dac1fb6600003,
    0x7ede80000c016f40fdbc00001802df41fb7600003005bd03f6e80000600b7707edc80000c016e80fdb8,
    0x5c603f7080000600b8907ee080000c0170c0fdc000001802e0c1fb7e00003005c003f6f80000600b74,
    0x1802e481fb8e00003005c783f7180000600aae07ee280000c015980fdc400001802df41fb8600003,
    0x7efa800010017460fdf400002002e7c1fbe600004005cd83f7c80000600b9807ef880000c0172a0fdf0,
    0x5dd03f7e80000600bb707efc800010017660fdf800002002ebc1fbee00004005d583f7d80000800ba7,
    0x802f681fc2400001005ec83f8440000200bd807f08000010017a80fdfc00004002f301fbf600012,
    0x7f0c000004017be0fe1700000802f781fc2c00001005ee83f8540000200bdc07f0a000004017b60fe13,
    0x5f183f8cc0000200be207f19000004017c20fe31000010003fc1fc60000030008083f8640000200be0,
    0x802f941fc7000001005f203f8dc000020012707f1b0000040024c0fe3500000802f8c1fc6800001,
    0x7f1f000004017d40fe3d00000802fa41fc7800001005f403f8ec0000200be707f1d000004017cc0fe39,
    0x5f803f90c0000200bef07f21000004017dc0fe4100000802fb41fc8000001005f603f8fc0000200beb,
    0x10004401fc94000020008803f9240000200bf307f24000004017e40fe4700000802fc41fc8800001,
    0x7f28000004017c60fe4f00000802f8c1fc9c00001005f183f934000040011007f26000008002200fe4b,
    0x5ef03f9580000200bdb07f2a800004017b80fe54000008003f81fca400001005ec83f9440000200bd8,
    0x802f901fcb6000010009383f968000020012607f2c800004017c20fe5800000802f741fcae00001,
    0x7f30800004017ea0fe6000000802fd01fcbe00001005f383f9780000200be607f2e800004017ca0fe5c,
    0x9283f9980000200bf907f32800004017f00fe6400000802fdc1fcc6000010009183f9880000200bf6,
    0x1002ff81fce000001005fe83f9ac0000200bfc07f35000004017f60fe6900000802fe81fcd000001,
    0x7f3c000008018100fe77000010030181fcec000020060203f9d00000400c0207f39000008018000fe71,
    0x60a03f9f40000400c1207f3e000008018200fe7b000010030381fcf4000020060603f9e40000400c0a,
    0x100306c1fd04000020060d83fa040000200c1a07f40000008018300fe7f000010030581fcfc00002,
    0x7f44000008018420fe870000100307c1fd0c000020060f83fa140000400c1d07f420000080183a0fe83,
    0x61283fa340000400c2307f46000008018460fe8b0000100308c1fd14000020061183fa240000400c21,
    0x8030981fd24000010061303fa440000200c2607f480000040184c0fe8f000008030941fd1c00001,
    0x7f4c000004018500fe97000008030a01fd2c000010061403fa540000200c2707f4a0000040184e0fe93,
    0x61503fa740000200c2907f4e000004018520fe9b000008030a41fd34000010061483fa640000200c28,
    0x8030ac1fd44000010061583fa840000200c2a07f50000004018540fe9f000008030a81fd3c00001,
    0x7f54000004018580fea7000008030b01fd4c000010061603fa940000200c2b07f52000004018560fea3,
    0x61783fab40000200c2e07f560000040185c0feab000008030b41fd54000010061683faa40000200c2c,
    0x8030c41fd64000010061883fac40000200c3007f58000004018600feaf000008030bc1fd5c00001,
    0x7f5c000004018640feb7000008030c81fd6c000010061903fad40000200c3107f5a000004018620feb3,
    0x61a03faf40000200c3307f5e000004018660febb000008030cc1fd74000010061983fae40000200c32,
    0x8030d41fd84000010061a83fb040000200c3407f60000004018680febf000008030d01fd7c00001,
    0x7f640000040186c0fec7000008030d81fd8c000010061b03fb140000200c3507f620000040186a0fec3,
    0x61c03fb340000200c3707f660000040186e0fecb000008030dc1fd94000010061b83fb240000200c36,
    0x8030e41fda4000010061c83fb440000200c3807f68000004018700fecf000008030e01fd9c00001,
    0x7f6c000004018740fed7000008030e81fdac000010061d03fb540000200c3907f6a000004018720fed3,
    0x61e03fb740000200c3b07f6e000004018760fedb000008030ec1fdb4000010061d83fb640000200c3a,
    0x8030f41fdc4000010061e83fb840000200c3c07f70000004018780fedf000008030f01fdbc00001,
    0x7f740000040187c0fee7000008030f81fdcc000010061f03fb940000200c3d07f720000040187a0fee3,
    0x62003fbb40000200c3f07f760000040187e0feeb000008030fc1fdd4000010061f83fba40000200c3e,
    0x8031041fde4000010062083fbc4000020090b07f78000004012160feef000008031001fddc00001,
    0x7f7c00000c0188a0fef7000018031081fdec000030062103fbd40000200c4107f7a000004018820fef3,
    0x5ee83fc040000400c4b07f7e000008018960fefb000018031201fdf4000030062403fbe40000600c45,
    0x802fd41fe0c00001005fe03fc140000200bfb07f82000004017e80ff03000008031341fe0400001,
    0x7f86000004002460ff0b00000802fd81fe14000010009383fc24000020012607f840000040189c0ff07,
    0x683fc44000020011c07f880000040189e0ff0f000008003f81fe1c00001005fb83fc340000200bd8,
    0x80047c1fe2c000010008f03fc54000020011d07f8a0000040000e0ff13000008000181fe2400001,
    0x7f8e000004017b80ff1b00000802f6c1fe34000010009103fc64000020012107f8c000004002400ff17,
    0x4283fc840000200bfd07f90000004017bc0ff1f00000802fe41fe3c000010009283fc740000200bf8,
    0x8005241fe4c000010004483fc94000020008807f92000004002620ff230000080021c1fe4400001,
    0x7f960000040011e0ff2b000008002381fe54000010004683fca4000020008c07f94000004001160ff27,
    0xa003fcc4000020009507f98000004001260ff2f000008002481fe5c000010004883fcb40000200090,
    0x80062c1fe6c000010004c03fcd4000020009707f9a0000040053e0ff33000008002581fe6400001,
    0x7f9e000004017e40ff3b000008005201fe74000010015003fce4000020019707f9c000004001320ff37,
    0x183fd040000200c5107fa0000004017c60ff3f000008031401fe7c00001005f983fcf40000200bfa,
    0x8002e81fe8c000010004f83fd14000020009e07fa20000040016e0ff43000008002741fe8400001,
    0x7fa6000004001480ff4b000008001001fe94000010005a03fd24000020003e07fa4000004001460ff47,
    0x15083fd4400002000aa07fa80000040001c0ff4f000008004a01fe9c000010005283fd340000200054,
    0x8002bc1feac000010005603fd5400002000ab07faa000004000440ff53000008001041fea400001,
    0x7fae000004017c80ff5b000008003541feb4000010002303fd64000020005507fac0000040008a0ff57,
    0x5ed03fd840000200c5507fb0000004018a80ff5f0000080314c1febc00001005f283fd740000200c52,
    0x8016d41fecc000010062b03fd940000200bd907fb2000004017de0ff6300000802fb81fec400001,
    0x7fb6000004018b60ff6b000008031681fed4000010062c83fda40000200c5807fb4000004018ae0ff67,
    0x2c383fdc40000200c6007fb8000004018be0ff6f000008031781fedc000010062e83fdb40000200c5c,
    0x8016301feec00001002c583fdd4000020058a07fba00000400b120ff73000008016201fee400001,
    0x7fbe00000400b220ff7b000008016401fef400001002c783fde4000020058e07fbc00000400b1a0ff77,
    0x2cb83fe04000020059607fc000000400b2a0ff7f000008016501fefc00001002c983fdf40000200592,
    0x8016701ff0c00001002cd83fe14000020059a07fc200000400b320ff83000008016601ff0400001,
    0x7fc600000400b420ff8b000008016801ff1400001002cf83fe24000020059e07fc400000400b3a0ff87,
    0x2d383fe4400002005a607fc800000400b4a0ff8f000008016901ff1c00001002d183fe3400002005a2,
    0x8016b01ff2c00001002d583fe5400002005aa07fca00000400b520ff93000008016a01ff2400001,
    0x7fce00000400b620ff9b000008016c01ff3400001002d783fe6400002005ae07fcc00000400b5a0ff97,
    0x1c903fe8400002003c507fd0000004018c60ff9f000008031881ff3c000010063083fe7400002005b2,
    0x800e5c1ff4c00001001cb03fe94000020039507fd2000004007280ffa300000800e4c1ff4400001,
    0x7fd6000004007380ffab00000800e6c1ff5400001001cd03fea4000020039907fd4000004007300ffa7,
    0x1d103fec400002003a107fd8000004007400ffaf00000800e7c1ff5c00001001cf03feb4000020039d,
    0x800e9c1ff6c00001001d303fed400002003a507fda000004007480ffb300000800e8c1ff6400001,
    0x7fde000004007580ffbb00000800eac1ff7400001001d503fee400002003a907fdc000004007500ffb7,
    0x1d903ff1000002003b107fe1800004007600ffc200000800ebc1ff7c00001001d703fef400002003ad,
    0x800edc1ff9600001001db03ff2800002003b507fe3800004007680ffc600000800ecc1ff8a00001,
    0x7fe9800004007780ffd200000800eec1ff9e00001001dd03ff3800002003b907fe6800004007700ffcc,
    0x1e103ff6800002003c107feb800004007800ffd600000800efc1ffaa00001001df03ff5000002003bd,
    0x8031981ffc4000010063283ff840000200c6407ff0000004007880ffdc00000800f0c1ffb600001,
    0x7ff4800004018d40ffe8000008031a41ffcc000010063403ff940000200c6707ff2000008000080ffe3,
    0x63803ffb80000200c6f07ff6800004018dc0ffec000008031b41ffd6000010063603ffa80000200c6b,
    0x8031d420f0a000010063a041e100000200c73083c1800004018e410782000008031c420f0200001,
    0x83c6000004018f41078b000008031e420f14000010063c041e240000200c77083c4000004018ec10787,
    0x640041e440000200c7f083c8000004018fc1078f000008031f420f1c000010063e041e340000200c7b,
    0x80321020f2c000010009e841e540000200c83083ca00000401904107930000080320420f2400001,
    0x83ce000004019121079b0000080322020f340000100643841e640000200c86083cc0000040190a10797,
    0x647841e840000200c8e083d00000040191a1079f0000080323020f3c0000100645841e740000200c8a,
    0x80324c20f4c0000100150841e940000200c92083d200000401922107a30000080324020f4400001,
    0x83d600000401930107ab0000080325c20f54000010064b041ea40000200c95083d400000401928107a7,
    0x64f041ec80000200c9d083d800000401938107af0000080326c20f5c000010064d041eb40000200c99,
    0x80328c20f6e0000100651041ed80000200ca1083da80000401940107b40000080327c20f6600001,
    0xea010000040010e1d401000008002143a8000000100653041ee80000200ca5083dc80000401948107b8,
    0x4607501c000020008b0ea03000004002921d405000008002243a808000010004407500c0000200131,
    0x8002443a818000010004807502c000020008f0ea050000040011c1d409000008002343a81000001,
    0xea090000040012c1d411000008005003a820000010004a87503c00002000930ea07000004001241d40d,
    0xcb87505c00002000990ea0b000004003161d415000008002603a828000010004b87504c000020029f,
    0x8002dc3a838000010004e87506c00002000030ea0d000004002901d41900000800a803a83000001,
    0xea110000040007c1d4210000080028c3a840000010005d07507c000020009f0ea0f0000040013c1d41d,
    0x9407509c00002000a50ea13000004000a81d425000008002903a848000010002007508c00002000b4,
    0x8000883a85800001000208750ac00002002a10ea15000004001541d429000008000383a85000001,
    0xea19000004000aa1d431000008001143a86000001000578750bc00002000ac0ea17000004001561d42d,
    0x440750dc00002001310ea1b0000040010e1d435000008002143a868000010006a8750cc0000200046,
    0x8002343a87800001000460750ec000020008b0ea1d000004002921d439000008002243a87000001,
    0xea21000004001241d441000008002443a88000001000480750fc000020008f0ea1f0000040011c1d43d,
    0x4b87511c000020029f0ea230000040012c1d445000008005003a888000010004a87510c0000200093,
    0x800a803a89800001000cb87512c00002000990ea25000004003161d449000008002603a89000001,
    0xea290000040013c1d451000008002dc3a8a0000010004e87513c00002000030ea27000004002901d44d,
    0x5207516000002000400ea2b800004001681d4560000080028c3a8a8000010005d07514c000020009f,
    0x8002a83a8ba000010000707517000002001280ea2d8000040014a1d45a000008001503a8b200001,
    0xea31800004001581d462000008002ac3a8c2000010001107518000002000410ea2f800004005421d45e,
    0x428751a000002000d50ea338000040008c1d466000008001543a8ca000010002287519000002000af,
    0x8005243a8da00001000448751b000002000880ea35800004002621d46a0000080021c3a8d200001,
    0xea398000040011e1d472000008002383a8e200001000468751c0000020008c0ea37800004001161d46e,
    0xa00751e000002000950ea3b800004001261d476000008002483a8ea00001000488751d00000200090,
    0x80062c3a8fa000010004c0751f000002000970ea3d8000040053e1d47a000008002583a8f200001,
    0xea41800004000061d482000008005203a902000010015007520000002001970ea3f800004001321d47e,
    0x5187522000002000ba0ea438000040013e1d486000008002783a90a000010005b875210000020009d,
    0x8001503a91a000010005207523000002000400ea45800004001681d48a000008000f83a91200001,
    0xea49800004005421d492000008002a83a922000010000707524000002001280ea478000040014a1d48e,
    0x2287526000002000af0ea4b800004001581d496000008002ac3a92a00001000110752500000200041,
    0x8004c43a93c000010004287527000002000d50ea4d8000040008c1d49a000008001543a93200001,
    0xea55000004001241d4a90000080023c3a94c0000100047075294000020008b0ea51000004001101d49f,
    0x4c0752c000002000970ea578000040053e1d4ae000008005003a958000010004a8752ac0000200093,
    0x8005203a96a00001001500752d000002001970ea59800004001321d4b20000080062c3a96200001,
    0xea5e800004001741d4bb000008002783a972000010005b8752e0000020009d0ea5b800004000061d4b6,
    0x5287530800002000540ea60800004001481d4c0000008001003a97e000010005a0752f8000020003e,
    0x8000883a990000010002087531c00002002a10ea63000004001541d4c5000008004a03a98600001,
    0xea67000004000aa1d4cd000008001143a998000010005787532c00002000ac0ea65000004001561d4c9,
    0x4407534c00002001310ea690000040010e1d4d1000008002143a9a0000010006a87533c0000200046,
    0x8002343a9b0000010004607535c000020008b0ea6b000004002921d4d5000008002243a9a800001,
    0xea6f000004001241d4dd000008002443a9b8000010004807536c000020008f0ea6d0000040011c1d4d9,
    0x4b87538c000020029f0ea710000040012c1d4e1000008005003a9c0000010004a87537c0000200093,
    0x800a803a9d000001000cb87539c00002000990ea73000004003161d4e5000008002603a9c800001,
    0xea770000040013c1d4ed000008002dc3a9d8000010004e8753ac00002000030ea75000004002901d4e9,
    0x200753cc00002000b40ea790000040007c1d4f10000080028c3a9e0000010005d0753bc000020009f,
    0x8000383a9f000001000940753dc00002000a50ea7b000004000a81d4f5000008002903a9e800001,
    0xea7f000004001561d4fd000008000883a9f800001000208753ec00002002a10ea7d000004001541d4f9,
    0x6a87540c00002000460ea81000004000aa1d501000008001143aa0000001000578753fc00002000ac,
    0x8005243aa12000010004487542000002000880ea838000040010e1d505000008002143aa0800001,
    0xea88800004001221d510000008002403aa1e0000100047875438000020008e0ea86800004001161d50a,
    0x4b87545c000020029f0ea8b000004002801d514000008002543aa2600001000498754480000200092,
    0x800a803aa3800001000cb87546c00002000990ea8d000004003161d519000008002603aa3000001,
    0xea918000040013e1d522000008002783aa42000010005b875480000020009d0ea8f800004000061d51e,
    0x520754a000002000400ea93800004001681d526000008000f83aa4a000010005187549000002000ba,
    0x8002a83aa5a00001000070754b000002001280ea958000040014a1d52a000008001503aa5200001,
    0xea99800004001581d532000008002ac3aa6200001000110754c000002000410ea97800004005421d52e,
    0x428754e000002000d50ea9b8000040008c1d536000008001543aa6a00001000228754d000002000af,
    0x80022c3aa7c00001000a48754f400002000890ea9e000004001101d53b0000080021c3aa7200001,
    0xeaa3000004001221d544000008002403aa860000100047875508000020008e0eaa08000040011a1d540,
    0x4c875538000020018b0eaa6800004001301d54c0000080025c3aa96000010014f8755280000200093,
    0x8002dc3aaa8000010004e87554c00002000030eaa9000004005401d5500000080065c3aa9e00001,
    0xeaad0000040007c1d5590000080028c3aab0000010005d07555c000020009f0eaab0000040013c1d555,
    0x9407557c00002000a50eaaf000004000a81d55d000008002903aab8000010002007556c00002000b4,
    0x8000883aac8000010002087558c00002002a10eab1000004001541d561000008000383aac000001,
    0xeab5000004000aa1d569000008001143aad0000010005787559c00002000ac0eab3000004001561d565,
    0x440755bc00002001310eab70000040010e1d56d000008002143aad8000010006a8755ac0000200046,
    0x8002343aae800001000460755cc000020008b0eab9000004002921d571000008002243aae000001,
    0xeabd000004001241d579000008002443aaf000001000480755dc000020008f0eabb0000040011c1d575,
    0x4b8755fc000020029f0eabf0000040012c1d57d000008005003aaf8000010004a8755ec0000200093,
    0x800a803ab0800001000cb87560c00002000990eac1000004003161d581000008002603ab0000001,
    0xeac50000040013c1d589000008002dc3ab10000010004e87561c00002000030eac3000004002901d585,
    0x2007563c00002000b40eac70000040007c1d58d0000080028c3ab18000010005d07562c000020009f,
    0x8000383ab28000010009407564c00002000a50eac9000004000a81d591000008002903ab2000001,
    0xeacd000004001561d599000008000883ab30000010002087565c00002002a10eacb000004001541d595,
    0x6a87567c00002000460eacf000004000aa1d59d000008001143ab38000010005787566c00002000ac,
    0x8002243ab48000010004407568c00002001310ead10000040010e1d5a1000008002143ab4000001,
    0xead50000040011c1d5a9000008002343ab50000010004607569c000020008b0ead3000004002921d5a5,
    0x4a8756bc00002000930ead7000004001241d5ad000008002443ab5800001000480756ac000020008f,
    0x8002603ab68000010004b8756cc000020029f0ead90000040012c1d5b1000008005003ab6000001,
    0xeadd000004002901d5b900000800a803ab7000001000cb8756dc00002000990eadb000004003161d5b5,
    0x5d0756fc000020009f0eadf0000040013c1d5bd000008002dc3ab78000010004e8756ec0000200003,
    0x8002903ab88000010002007570c00002000b40eae10000040007c1d5c10000080028c3ab8000001,
    0xeae5000004001541d5c9000008000383ab90000010009407571c00002000a50eae3000004000a81d5c5,
    0x5787573c00002000ac0eae7000004001561d5cd000008000883ab98000010002087572c00002002a1,
    0x8002143aba8000010006a87574c00002000460eae9000004000aa1d5d1000008001143aba000001,
    0xeaed000004002921d5d9000008002243abb0000010004407575c00002001310eaeb0000040010e1d5d5,
    0x4807577c000020008f0eaef0000040011c1d5dd000008002343abb8000010004607576c000020008b,
    0x8005003abc8000010004a87578c00002000930eaf1000004001241d5e1000008002443abc000001,
    0xeaf5000004003161d5e9000008002603abd0000010004b87579c000020029f0eaf30000040012c1d5e5,
    0x4e8757bc00002000030eaf7000004002901d5ed00000800a803abd800001000cb8757ac0000200099,
    0x80028c3abe8000010005d0757cc000020009f0eaf90000040013c1d5f1000008002dc3abe000001,
    0xeafd000004000a81d5f9000008002903abf000001000200757dc00002000b40eafb0000040007c1d5f5,
    0x208757fc00002002a10eaff000004001541d5fd000008000383abf800001000940757ec00002000a5,
    0x8001143ac08000010005787580c00002000ac0eb01000004001561d601000008000883ac0000001,
    0xeb050000040010e1d609000008002143ac10000010006a87581c00002000460eb03000004000aa1d605,
    0x4607583c000020008b0eb07000004002921d60d000008002243ac18000010004407582c0000200131,
    0x8002443ac28000010004807584c000020008f0eb090000040011c1d611000008002343ac2000001,
    0xeb0d0000040012c1d619000008005003ac30000010004a87585c00002000930eb0b000004001241d615,
    0xcb87587c00002000990eb0f000004003161d61d000008002603ac38000010004b87586c000020029f,
    0x8002dc3ac48000010004e87588c00002000030eb11000004002901d62100000800a803ac4000001,
    0xeb150000040007c1d6290000080028c3ac50000010005d07589c000020009f0eb130000040013c1d625,
    0x940758bc00002000a50eb17000004000a81d62d000008002903ac5800001000200758ac00002000b4,
    0x8000883ac6800001000208758cc00002002a10eb19000004001541d631000008000383ac6000001,
    0xeb1d000004000aa1d639000008001143ac7000001000578758dc00002000ac0eb1b000004001561d635,
    0x440758fc00002001310eb1f0000040010e1d63d000008002143ac78000010006a8758ec0000200046,
    0x8002343ac88000010004607590c000020008b0eb21000004002921d641000008002243ac8000001,
    0xeb25000004001241d649000008002443ac90000010004807591c000020008f0eb230000040011c1d645,
    0x4b87593c000020029f0eb270000040012c1d64d000008005003ac98000010004a87592c0000200093,
    0x800a803aca800001000cb87594c00002000990eb29000004003161d651000008002603aca000001,
    0xeb2d0000040013c1d659000008002dc3acb0000010004e87595c00002000030eb2b000004002901d655,
    0x2007597c00002000b40eb2f0000040007c1d65d0000080028c3acb8000010005d07596c000020009f,
    0x8000383acc8000010009407598c00002000a50eb31000004000a81d661000008002903acc000001,
    0xeb35000004001561d669000008000883acd0000010002087599c00002002a10eb33000004001541d665,
    0x6a8759bc00002000460eb37000004000aa1d66d000008001143acd800001000578759ac00002000ac,
    0x8002243ace800001000440759cc00002001310eb390000040010e1d671000008002143ace000001,
    0xeb3d0000040011c1d679000008002343acf000001000460759dc000020008b0eb3b000004002921d675,
    0x4a8759fc00002000930eb3f000004001241d67d000008002443acf800001000480759ec000020008f,
    0x8002603ad08000010004b875a0c000020029f0eb410000040012c1d681000008005003ad0000001,
    0xeb45000004002901d68900000800a803ad1000001000cb875a1c00002000990eb43000004003161d685,
    0x5d075a3c000020009f0eb470000040013c1d68d000008002dc3ad18000010004e875a2c0000200003,
    0x8002903ad280000100020075a4c00002000b40eb490000040007c1d6910000080028c3ad2000001,
    0xeb4d000004001541d699000008000383ad300000100094075a5c00002000a50eb4b000004000a81d695,
    0x57875a7c00002000ac0eb4f000004001561d69d000008000883ad380000100020875a6c00002002a1,
    0x80329c3ad48000010006a875a8c00002000460eb51000004000aa1d6a1000008001143ad4000001,
    0xeb56000004019561d6ab000008005443ad540000100655075aa40000200ca90eb54000004019501d6a5,
    0x658075ac40000200caf0eb58000004000d01d6af000008032b83ad5c0000100656875ab40000200cac,
    0x8032d43ad6c000010065a075ad40000200cb30eb5a000004019641d6b3000008032c43ad6400001,
    0xeb5e0000040196e1d6bb000008001a83ad740000100034075ae40000200cb60eb5c000004002a41d6b7,
    0x65e075b040000200cbb0eb60000004019741d6bf000008032e43ad7c000010065c075af4000020005e,
    0x8001a43ad8c0000100059075b1400002000b10eb62000004000b81d6c3000008032f43ad8400001,
    0xeb66000004000ca1d6cb000008033003ad94000010002e875b240000200cbf0eb640000040197c1d6c7,
    0x32075b440000200cc40eb68000004019861d6cf000008033083ad9c0000100005075b340000200cc1,
    0x80331c3adac0000100663075b540000200cc50eb6a000004000ce1d6d3000008001983ada400001,
    0xeb6e000004019941d6db000008033243adb40000100664075b6400002000b30eb6c000004000c61d6d7,
    0x32075b8400002000660eb70000004000c61d6df000008001943adbc000010002e875b740000200069,
    0x8032b03adcc0000100655875b9400002001510eb72000004019541d6e3000008032a43adc400001,
    0xeb76000004019601d6eb000008032bc3add40000100034075ba40000200cae0eb740000040195a1d6e7,
    0xa9075bc40000200cb50eb78000004019681d6ef000008032cc3addc0000100659075bb40000200cb1,
    0x8001783adec000010065b875bd4000020006a0eb7a000004000d01d6f3000008032d83ade400001,
    0xeb7e000004019781d6fb000008032ec3adf4000010065d075be40000200cb90eb7c000004019701d6f7,
    0x65f075c0400002000690eb80000004001641d6ff000008002c43adfc000010002e075bf40000200cbd,
    0x8033043ae0c0000100032875c140000200cc00eb82000004000ba1d703000008032fc3ae0400001,
    0xeb86000004000c81d70b000008033103ae140000100661875c240000200cc20eb84000004000141d707,
    0x31875c440000200cc70eb880000040198c1d70f000008033143ae1c0000100033875c340000200066,
    0x8001a43ae2c0000100665075c540000200cc90eb8a000004019901d713000008002cc3ae2400001,
    0xeb8e000004000c81d71b000008001983ae340000100031875c6400002000650eb8c000004000ba1d717,
    0x656875c840000200cac0eb90000004019561d71f000008005443ae3c0000100655075c740000200ca9,
    0x8032c43ae4c0000100658075c940000200caf0eb92000004000d01d723000008032b83ae4400001,
    0xeb96000004002a41d72b000008032d43ae54000010065a075ca40000200cb30eb94000004019641d727,
    0x65c075cc4000020005e0eb980000040196e1d72f000008001a83ae5c0000100034075cb40000200cb6,
    0x8032f43ae6c000010065e075cd40000200cbb0eb9a000004019741d733000008032e43ae6400001,
    0xeb9e0000040197c1d73b000008001a43ae740000100059075ce400002000b10eb9c000004000b81d737,
    0x5075d040000200cc10eba0000004000ca1d73f000008033003ae7c000010002e875cf40000200cbf,
    0x8001983ae8c0000100032075d140000200cc40eba2000004019861d743000008033083ae8400001,
    0xeba6000004000c61d74b0000080331c3ae940000100663075d240000200cc50eba4000004000ce1d747,
    0x2e875d4400002000690eba8000004019941d74f000008033243ae9c0000100664075d3400002000b3,
    0x8032a43aeac0000100032075d5400002000660ebaa000004000c61d753000008001943aea400001,
    0xebae0000040195a1d75b000008032b03aeb40000100655875d6400002001510ebac000004019541d757,
    0x659075d840000200cb10ebb0000004019601d75f000008032bc3aebc0000100034075d740000200cae,
    0x8032d83aecc00001000a9075d940000200cb50ebb2000004019681d763000008032cc3aec400001,
    0xebb6000004019701d76b000008001783aed4000010065b875da4000020006a0ebb4000004000d01d767,
    0x2e075dc40000200cbd0ebb8000004019781d76f000008032ec3aedc000010065d075db40000200cb9,
    0x8032fc3aeec000010065f075dd400002000690ebba000004001641d773000008002c43aee400001,
    0xebbe000004000141d77b000008033043aef40000100032875de40000200cc00ebbc000004000ba1d777,
    0x33875e0400002000660ebc0000004000c81d77f000008033103aefc0000100661875df40000200cc2,
    0x8002cc3af0c0000100031875e140000200cc70ebc20000040198c1d783000008033143af0400001,
    0xebc6000004000ba1d78b000008001a43af140000100665075e240000200cc90ebc4000004019901d787,
    0x655075e440000200ca90ebc8000004000c81d78f000008001983af1c0000100031875e340000200065,
    0x8032b83af2c0000100656875e540000200cac0ebca000004019561d793000008005443af2400001,
    0xebce000004019641d79b000008032c43af340000100658075e640000200caf0ebcc000004000d01d797,
    0x34075e840000200cb60ebd0000004002a41d79f000008032d43af3c000010065a075e740000200cb3,
    0x8032e43af4c000010065c075e94000020005e0ebd20000040196e1d7a3000008001a83af4400001,
    0xebd6000004000b81d7ab000008032f43af54000010065e075ea40000200cbb0ebd4000004019741d7a7,
    0x2e875ec40000200cbf0ebd80000040197c1d7af000008001a43af5c0000100059075eb400002000b1,
    0x8033083af6c0000100005075ed40000200cc10ebda000004000ca1d7b3000008033003af6400001,
    0xebde000004000ce1d7bb000008001983af740000100032075ee40000200cc40ebdc000004019861d7b7,
    0x664075f0400002000b30ebe0000004000c61d7bf0000080331c3af7c0000100663075ef40000200cc5,
    0x8001943af8c000010002e875f1400002000690ebe2000004019941d7c3000008033243af8400001,
    0xebe7000004019981d7cb0000080332c3af940000100032075f2400002000660ebe4000004000c61d7c7,
    0x8f075f4c000020011d0ebe90000040000e1d7d1000008000183afa00000100006875f3c000020011c,
    0x8004703afb00000100091075f5c00002001210ebeb000004002401d7d50000080047c3afa800001,
    0xebef0000040023c1d7dd000008004743afb80000100003875f6c00002000060ebed0000040001a1d7d9,
    0x6875f8c000020011c0ebf1000004002441d7e1000008004843afc00000100090075f7c000020011f,
    0x80047c3afd0000010008f075f9c000020011d0ebf30000040000e1d7e5000008000183afc800001,
    0xebf70000040001a1d7ed000008004703afd80000100091075fac00002001210ebf5000004002401d7e9,
    0x90075fcc000020011f0ebf90000040023c1d7f1000008004743afe00000100003875fbc0000200006,
    0x8000183aff00000100006875fdc000020011c0ebfb000004002441d7f5000008004843afe800001,
    0xebff000004002401d7fd0000080047c3aff8000010008f075fec000020011d0ebfd0000040000e1d7f9,
    0x61687b80c0000200c2a0f7010000040184c1ee01000008030943dc000000100091075ffc0000200121,
    0x8031043dc12000010061a87b8200000200c2b0f703800004018601ee06000008031003dc0a00001,
    0xf707800004018621ee0e000008030f83dc1a000010061e87b8300000200c3c0f705800004018761ee0a,
    0x61907b8500000200c2f0f709800004018741ee12000008030cc3dc22000010061c87b8400000200c37,
    0x8030d03dc32000010061707b8600000200c2c0f70b800004018521ee16000008030a03dc2a00001,
    0xf70f8000040199c1ee1e000008023e83dc3a000010066687b8700000200c380f70d8000040186c1ee1a,
    0x62087b8a40000200c2b0f7138000040187e1ee24000008030a83dc44000010061307b8840000200ccf,
    0x8030c43dc5c000010061f07b8b40000200c3d0f716000004018781ee2b000008030ec3dc5400001,
    0xf71a800004018641ee34000008030e83dc64000010061987b8c40000200c390f7180000040186e1ee2f,
    0x61507b9080000200c380f71d800004018681ee39000008030b03dc6e000010061487b8d80000200c28,
    0x8030c43dc9c000010061f07b9340000200c3c0f725800004018821ee49000008030ac3dc8e00001,
    0xf72c800004018581ee57000008030c83dca8000010061d07b9480000200c330f7288000040186e1ee4f,
    0x61507b9880000200c260f7308000040199e1ee5f000008023e83dcba000010061c07b96c0000200c34,
    0x8030ec3dcd4000010062087b9a40000200c350f734000004018561ee67000008030fc3dcc800001,
    0xf738800004018721ee70000008030dc3dcde000010061887b9b80000200c3e0f7368000040187a1ee6c,
    0x61607b9dc0000200c290f73b000004018501ee75000008030c83dce8000010061d07b9c80000200c33,
    0x8033383dcfc000010066687b9f00000200c380f73d8000040186c1ee7a000008030d03dcf200001,
    0xf7428000040187e1ee84000008030b43dd06000010061507ba080000200c260f7408000040184a1ee80,
    0x61e07ba2c0000200c410f7448000040186a1ee88000008030ac3dd0e000010061807ba180000200c40,
    0x8030e43dd20000010061b87ba3c0000200c310f7470000040187c1ee8d000008030f43dd1800001,
    0xf74b000004018501ee95000008030c83dd28000010061787ba4c0000200c3a0f749000004018661ee91,
    0x61c07ba6c0000200c360f74d000004018681ee99000008030b83dd30000010061607ba5c0000200c29,
    0x8030c03dd4c000010062007ba940000200c2d0f751800004018541eea2000008030983dd4200001,
    0xf7568000040187a1eeac000008030f03dd56000010062087baa40000200c350f754000004018561eea7,
    0x61d07bac80000200c330f758800004018721eeb0000008030dc3dd5e000010061887bab80000200c3e,
    0x8030b03dd6e000010061487bad80000200c280f75a800004018641eeb4000008030bc3dd6600001,
    0xf880800008019a01f100000008030e03dd76000010061b07bae80000200c340f75c8000040185c1eeb8,
    0x66e07c4180000400cda0f882800008019b01f104000010033583e206000020066a07c4080000400cd2,
    0x18033983e220000020067207c4280000400ce20f884800008019c01f108000010033783e20e00002,
    0xf88b00000c019ea1f115000018033c83e228000030067787c44c0000600cec0f88900000c019d21f111,
    0x68387c46c0000600d040f88d00000c01a021f119000018033f83e230000030067d87c45c0000600cf8,
    0x18034583e240000030068987c47c0000600d100f88f00000c01a1a1f11d000018034283e23800003,
    0xf89300000c01a4a1f125000018034883e248000030068f87c48c0000600d1c0f89100000c01a321f121,
    0x9887c4ac0000600d340f89500000c01a621f129000018034b83e250000030069587c49c0000600d28,
    0x80021c3e262000010004287c4c00000400d390f89700000801a6e1f12d000008002583e25800001,
    0xf89b800004001161f136000008005243e26a000010004487c4d000002000880f899800004002621f132,
    0x4887c4f000002000900f89d8000040011e1f13a000008002383e272000010004687c4e0000020008c,
    0x8002583e28200001000a007c50000002000950f89f800004001261f13e000008002483e27a00001,
    0xf8a3800004001321f1460000080062c3e28a000010004c07c51000002000970f8a18000040053e1f142,
    0x69e87c53000004008060f8a580000801a761f14a000008005203e292000010015007c5200000200197,
    0x10035203e2d600002006a307c5a80000400d440f8a780000c01a821f14e000010034fc3e29a00002,
    0xf90800000400b221f202000010035403e40200002006a707c8000000400d4c0f8c800000801a941f16c,
    0x6ab07c85400002002b70f90a00000801aa81f2130000080354c3e42400001006a907c84400002002f0,
    0x8035683e43400001006ac87c8640000200d580f90c000004007f01f2170000080355c3e42c00001,
    0xf91000000401abe1f21f000008035783e43c00001006ae87c8740000200d5c0f90e00000401ab61f21b,
    0x6b207c8940000200d630f91200000401ac41f22300000800c503e44400001006b087c8840000200d60,
    0x800fc03e454000010015887c8a40000200d670f91400000401acc1f227000008035943e44c00001,
    0xf91800000401ad21f22f000008014ec3e45c00001001f987c8b4000020053a0f91600000401ad01f22b,
    0x6b707c8d40000200d6d0f91a00000401ad81f233000008035ac3e46400001006b507c8c4000020034c,
    0x8035c43e47400001006b807c8e40000200d6f0f91c000004005f41f237000008014a43e46c00001,
    0xf92200000c01af81f243000018035e43e48400003006bb07c9040000600d730f92000000401ae41f23b,
    0x6c707c9400000600d8b0f92400000c01b101f247000018036143e48c00003006c107c9140000600d7f,
    0x80001c3f7e6000010000307efc8000020000d0fdf8800004002381fbf00000080363c3e4a200001,
    0xfdfc800004002421fbf8000008004803f7ee000010008f87efd8000020011e0fdfa8000040023a1fbf4,
    0x200122]

/-- The characters of the compatibility decompositions, one after another. -/
def compatiblePool : PackedTable where
  bits := 21
  width := 1
  rows := 3472
  words := #[
    0x188001bc000620032700010000ef00060200020000198000c8006080002000030800c200004000020,
    0x5b8001b00016e0004c000350001a400094000490001a0081100006600032010220000c40006802044,
    0x35000130000940004c001860001e8000c80030c0003d000110006180005a000220001cc000dc002bc,
    0x1330001a0000f4000640003d000110000b400044000350001b8000d40004e00025000138000d40006c,
    0x10000ca0000400030a00010000c1c0004000306000100001e4000ee002810013d8009e4000e40006a,
    0x1d2800e9400770003b200180800c20000400034500010000a54000f00006c00131800c2c0004000303,
    0x3240019d000c4e00582002b2800e8c0076a00398001e1000f0400774003c0001e3000c200074a00301,
    0x7b8803ec801e1600ea100755803a6401d5600eb2007668038c801c9a00674003250019d000d8e00674,
    0x258001280009200048000238006380008a000440002100031800082010dc007c0003dc401f6600f80,
    0x32800190000c401d0200128800940000ae000550002a000148000a000222000278001380009a0004c,
    0x3b0009bc03a3a000750003a0001c003a2e01d160012a00052c000da0006b00033800970004b600259,
    0x1348009a0004ca002610012f800198001e000255000318009480087a00069001e3800ed00076601d25,
    0xd5800a0c00504002780013a8009d0004e600272001380009c40053e01d8500136800a7403af60026a,
    0x10000c4c000400030700039800af8000c20029200148800a40000f40028c001458074700051400289,
    0x180000c50000400034200189800080006020031300010000c000062600020001a1000c200004000342,
    0x170000b8006660002001008000c50000400030000184000080006840031400010000c040062800020,
    0x108000840406a020350101a8080d40406a02032010190080c80406402032000170000b80005c0002e,
    0x1b0000d40006800030010190080c804064020320001f800084000420003f0001f8000fc0060a00020,
    0x17800184000c60002f000308001cc000a40006e000148000a00007a02212000158000e40007000037,
    0x378001380024e0004600058000640000ea0002f000318001bc0005e00063000218002c00008600073,
    0x2080011800ba6005d2002e88017400008c0005a0002680015000098000450002a000134000a600051,
    0x10220000c40006000031010220000c40007202044000188000dc040880003101108800e800072600058,
    0x1a8081100006800035010220000cc0006a02044000190000d40408800031000198081100006400033,
    0x1b8000e004088000350001c0081100006600038010220000c40006c020440001a8000d80408800031,
    0x2480015800092000560002b0001580009200049000248001240009200049010220000c40007002044,
    0x348001a4000d2000490002480016000092000580002c000160000920004900024800124000ac00049,
    0x3c0001e0000d200069000348001a4000ec00069000348001d8000d2000760003b0001a4000d200069,
    0x11170088b80445c0222e011158088ac044560222b011158000cc0408800030000348001a4000f000069,
    0x188000d80006200035000188000d00006200033000188000c80006200031000188000c0000620222e,
    0x148000cc0005000029000190000a00005200031000140000c00006400039000188000e00006200037,
    0x140000a40007000028000148000dc00050000290001b0000a00005200035000140000a40006800028,
    0x188000a00005200032000188000a00005200031000188000a00005200030000188000a00005200039,
    0x188000a00005200036000188000a00005200035000188000a00005200034000188000a00005200033,
    0x170000c40005200030000190000a00005200039000188000a00005200038000188000a00005200037,
    0x170000e40005c00038000170000dc0005c00036000170000d40005c00034000170000cc0005c00032,
    0x188000b80006800031000170000cc000620002e000190000c40005c00031000188000b80006000031,
    0x180000c80005c00039000188000b80007000031000170000dc000620002e0001b0000c40005c00035,
    0x148001940005000029000320000a00005200063000140000a4000c40002800014800184000500002e,
    0x140000a4000d400028000148001a40005000029000340000a00005200067000140000a4000cc00028,
    0x380000a0000520006f000140000a4000dc00028000148001b40005000029000360000a0000520006b,
    0x148001d400050000290003a0000a00005200073000140000a4000e400028000148001c40005000029,
    0x298000a4000f400028000148001e400050000290003c0000a00005200077000140000a4000ec00028,
    0x35e680b5840007a0003d0001e8000f40007a0003d0001d0000e8044560222b011158088ac000e200059,
    0x28d58146580a3040516b028b28144fc09d7404ea002746013a1409cb204e3f0271b0138a009c0009f9f,
    0x2b6b814f8c0a790053b6029c1014da40a6b8053410299c014c680a62a052f90294d8148000a3ea051e0,
    0x2eed8171c40b8dc05c3802e1101703c0b7f005b8002da80165cc0b24e0591502c850164080b1d60571f,
    0x311b0188200bf8605f7302fb0817d400be2605f0b02f7f017bd00bcfe05e7a02f390177f80bbe205de5,
    0x35d981ade40d6c406b2003394019c200cde0065e5032f00196e40cb4806597032c38194d00ca5e0624b,
    0x39c201cab00e4b6072590392381c8fc0e476072360391501c1ac0d86806c140360781af6c0d7a806bcb,
    0x3bf101df6c0eddc076bf03b5701d9f40ecec0759203ac581d4c00ea500751f03a8c01d3980e9b807389,
    0x40090200301000207fbd03fc501fd440fe6c07cf803e3981ebe40f59607a7403cdf01e6e00f274077f3,
    0x44200219ac10c9a08278041390209b81043e0821b041060207f0103e6081ea040f1820224100fe08033,
    0x4765023aac11b6608d70046b2023274118f008c55046230230dc11400089d2044c58225f8110c60884c,
    0x4baf025d4412dd0096b904b5b02587012b0009577048e88247301238c0914904848823ed411f6008f9b,
    0x4d92826b7c135b009aa804cd60266641332c098df04c6d8262a013002097f304bf6825f2c12ed209762,
    0x4f89827c3813dfa09ef904f68827b3413d8609ebb04f528279fc13cea09ce504dad026cf01366409b2f,
    0x184500c22006134000200184c8000800a68a0534401809027e8013f3809f8d04fa9027d2813e7609f20,
    0x8da0046cc02364011b1008d80044140220801103008d68046b002204011aa0088080440006190030b3,
    0x889004444022200110f00887004434022180110b0088500442402242011080088380441802234011b5,
    0x8b80045bc022dc0116d008b60045ac022d401169008b400459c022cc01165008b200458c022c401161,
    0x88e004764023ae011d3008e700473002390011c70088a804450022c001175008ba0045cc022e401171,
    0x89b0044c80225e0112e008968044b002256011290089380448c02244011200088f004474023be011dd,
    0x8d08046780232801192008c88046200230a01184008ac804560022ae011f2008f88045300228e01140,
    0x148044080005000029008800000a00ae6005929027008138640ea6404e0b027168138280adb604e09,
    0x140000a402212000280001480441c0005000029008830000a00005201105000140000a40220600028,
    0x8888000a00005201110000140000a40221e00028000148044380005000029008860000a0000520110b,
    0x148045840220600028000148045840220400028000148045840220000028000148044480005000029,
    0x148045840221200028000148045840220e00028000148045840220c00028000148045840220a00028,
    0x148045840221e00028000148045840221c00028000148045840221800028000148045840221600028,
    0x148045b80221800028000148045840222400028000148045840222200028000148045840222000028,
    0x148138000005000029008b7004448022d20110b000140000a40235601165008860045a40221600028,
    0x140000a40a2da0002800014813a50000500002902b6d8000a00005204e09000140000a409d1800028,
    0x38358000a00005206708000140000a40a68200028000148139740005000029028b58000a00005204e03,
    0x14819794000500002902b8f8000a000052091d1000140000a40ce50000280001481b0d00005000029,
    0x140000a40e4f20002800014815034000500002903c9f0000a00005206709000140000a40d05400028,
    0x2db30000a0000520547c000140000a409dc60002800014814ad0000500002903cae8000a00005208ca1,
    0x1481e5b40005000029029aa0000a00005208cc7000140000a409e02000280001481db8c0005000029,
    0x19000114000a80005003dc78179f00aa9e00029040f98000a000052081ea000140000a409e2200028,
    0x190000e00006400037000190000d80006400035000190000d00006400033000190000c80006400031,
    0x8810045840220000035000198000d00006600033000198000c80006600031000198000c00006600039,
    0x8870045840221801161008858045840221201161008838045840220c01161008828045840220601161,
    0x8b7004430022d201100008db8045840221c01161008890045840222201161008880045840221e01161,
    0x295a01e574119420727902a0681e4f80ce120682a0272e81380c0a2da04e94008b700442c022e80110b,
    0x3b71816d980b72e0533b029f98177980d6c605199027888260140d9d005370028950241a40ea6e079d8,
    0x188000d000060000340001c8000cc00070000330001b8000cc0006c0003302c8e014d501198e04f01,
    0x1c8000d000070000340001b8000d00006c000340001a8000d00006800034000198000d00006400034,
    0x33840000dc0ce1000036033840000d40ce1000034033840000cc0ce1000032033840000c40006000035,
    0x3280019c0009006708000190000c40ce100003100018819c200006000031033840000e40ce1000038,
    0x185880c2bc0615a030ab0185500c2a00614c030a401851000110000a80004c0002b000194000ce00072,
    0x186700c33406198030cb0186500c3200618c030c40186080c2fc0617a030bb0185c80c2dc0616a030b3,
    0x187580c3a8061d2030e80187300c390061c4030e10187000c37c061bc030db0186c00c354061a4030cf,
    0x186a80c3ac06144030c80187e00c2680619e030a202a46013b90061e4030f10187800c3bc061da030ec,
    0x187980c29006132030af0187980c32c06148030eb0187e00c288061440309a0186c00c3cc06144030a1,
    0x187980c2a8061f8030ab0187e00c2a006132030c80187e00c2bc06172030a80187980c2a40614c030c1,
    0x185580c3f0061d4030ed0185580c32006186030e90185580c3a806148030ab0187000c3f006154030b9,
    0x185680c3f006196030990185680c26406156030990185680c378061e6030990185580c3cc061da03099,
    0x187480c2640615e030ed0185680c3b40615a030fc0184c80c2fc061d6030990185680c3f0061d4030e5,
    0x187000c3a406132030af0186400c30c061de030ed0185680c3ac06190030fc0187080c3b40615a030e0,
    0x186680c3f0061da030af0187680c29006132030bb0187580c2bc061e6030c80187000c3a406132030af,
    0x187980c2d4061d6030af0185200c2d406134030db0187e00c2cc06194030eb0185980c2e4061f8030b1,
    0x184c80c2fc06190030f30185d80c304061e6030bb0184c80c2bc061e6030ea0185b80c380061f8030c1,
    0x186780c32006186030ce0186700c328061e6030c80187580c26406190030b70184c80c31806172030fc,
    0x187600c3f006132030cf0186200c3f006134030cf0186400c3cc06176030fc0184d00c33c06188030a4,
    0x184c80c348061660309a0186900c3ac0615e0309a0186900c3ac06190030b90185100c268061a4030eb,
    0x185380c2dc06186030990186a80c320061f8030a30186a80c26406190030c30187480c284061aa030eb,
    0x186900c32c06134030d80185e80c268061b0030eb0187e00c2fc0615e030d80187980c3a4061aa030eb,
    0x185f80c3f006132030d80184c80c2dc061f80309a0186c00c2e4061e60309a0186c00c310061d6030d8,
    0x184c80c320061e60309a0186d80c3cc061b6030c80187580c264061b6030c80187980c29006134030db,
    0x186780c30c061bc030eb0185200c378061da030af0185200c378061e6030fc0186d80c3ac061f8030db,
    0x187500c37c061d4030df0187980c3b40615e030df0187980c39c0616e030f30186f00c2bc061d6030de,
    0x187580c320061f8030e10187980c32006132030ab0187080c26406156030e10187580c3f006132030cf,
    0x187480c3a8061d6030c80186180c3a8061e6030a20187300c3ac061f8030e40184c80c320061f8030e4,
    0x184c80c2c406190030f30187600c380061d8030eb0184c80c354061f8030eb0187e00c268061a4030eb,
    0x385c8000d40e172000340385c8000cc0e172000320385c8000c40e172000300186400c30c061de030f3,
    0x190000c40e172000310001881c2e400060000310385c8000e40e172000380385c8000dc0e17200036,
    0x385c8000dc00062070b90001b0000c40e172000350001881c2e400068000310385c8000cc00062070b9,
    0x1901c2e400064000320385c8000c400064070b9000180000c80e172000390001881c2e40007000031,
    0x378001c8000c2000620002a800104000c20006400030800140000d0070b90001a0000c80e17200033,
    0x33168188400bce600055000248000cc000da00064000190001b4000c80006d0003200018c000e000056,
    0x36800104007780004100037000104000e00793e0278d017c3c0d05406cbb0330701ad8c0b24e0548c,
    0x36000184000c60006b00036000184000c600042000238001080009a0004200025800104000d600041,
    0x240001ac000f400048000338001ac000ce0006d00033800ef00008c003bc000230001b80008c00070,
    0x36000190000d80006d00036000ef0000f4000480002a0001e800090000470003d0001200009a0007a,
    0x368001b4000da0006b0003680018c000da0006d00036800ef0000da0006e00036800198000d80006b,
    0x368000cc000da00063000198001b4000da00032000368001ac000640006d000190001b4000c600032,
    0x30800140000d600061000280000c8000e602215000368001cc0442a0006d000198001b4000d600033,
    0x308001c8000e60221500032000184000e400064000308001c8000c20005000023800184000a00004d,
    0x2b0001b8000ac00070000398001b4000e6003bc000398001b8000e600070000190001cc0442a00064,
    0x2b8001b4000ae003bc0002b8001b8000ae000700002b000134000ac0006b0002b0001b4000ac003bc,
    0x3180018c000e200042000170001b40005c00061001d4800134007520006b0002b800134000ae0006b,
    0x24000184000d00007900023800108000c80002e0003780010c000ce0006b0110a80010c000c800063,
    0x338001bc000d80006e000360001b4000d80007400035800134000960004b000258001b8000d200050,
    0x170001b40005c0007000024000140000d80006f000368001b0000d20006d000310001b4000f00006c,
    0x110a800104000da022150002b000188000ae00076000298001c8000e60005200028000134000a000050,
    0x1c0197940006e065e50001b0197940006a065e50001a01979400066065e500019019794000620006d,
    0x188197940006600031032f28000c800062065e5000188000c40cbca000300001881979400072065e5,
    0x1c8000c40cbca00038000188197940006e00031032f28000d800062065e50001a8000c40cbca00034,
    0x32f28000d000064065e5000198000c80cbca00032000190197940006200032032f28000c000064065e5,
    0x198197940007200032032f28000e000064065e50001b8000c80cbca00036000190197940006a00032,
    0x13582acdc14e4e0015300093029dbc008980044a00036000184000ce065e5000188000cc0cbca00030,
    0x3a0001cc000d800066000330001a4000cc0006600036000198000d200066000330001980051a0ab52,
    0x2f400177400bb8005db002ea00178800ada00574002bb0015f800ad600574002b28015d000aec00574,
    0x343801a1800d060068400353001a9000cf20067f0033d001a0000cfc0067b0033880177000ba0005ea,
    0x35f001b0400ca8006d50035d801ae800d62006b300357801aa400d220069800344001a3800d180068d,
    0x32500189c00ca80064a00324801b4000d92006c500365801b2000d8c006c70035680195000da4006d2,
    0x32a00192800d900065400325001b1800ca80064a0036380195000c94006480032a00192800daa00654,
    0x32a00192800c8a00654003250018b400ca80064a0031600195000c94006cc0032480195000c94006d0,
    0x3150018b000c540064a0031400192400c5000645003140018b800c500062d003140018b000c500064a,
    0x31580192400c5600645003158018b000c560064a0031500192400c5400645003150018b800c540062d,
    0x31980191400c5c0062d003170018b000c5c00645003168018b000c5a00645003160018b400c580064a,
    0x31b0018b400c6c0062c0031b00191400c6a0062d0031a80191400c660062e003198018b400c660062c,
    0x31d0018b000c74006450031c8018b000c72006450031c00191400c6e0062d0031b80191400c6c0062e,
    0x3210018b400c840064a0032080192400c8200645003208018b800c820062d003208018b000c8200645,
    0x32180191000c860062e003218018b400c860062c0032180189c00c860064a0032100192400c8400645,
    0x32200192400c8800645003220018b800c880062d003220018b000c880064a0032180192400c8600645,
    0x3230018b000c8c0064a0032280192400c8a00645003228018b800c8a0062d003228018b000c8a0064a,
    0x32380192400c8e00645003238018b000c8e0064a0032300192400c8c00645003230018b800c8c0062d,
    0x3188019c000c600064a0032500192400c9400645003250018b800c940062d003250018b000c940064a,
    0x1000194400c9e000200032880193800040006510032680008000ca20064c000100019c000c9200670,
    0x3188018a000c8c00654003250018c800ca80064a0031880195000c94006700032880008000ca200650,
    0x3230018ac00c640062b003188018ac00c8c0062a003190018a800c620062a003230018a000c6400628,
    0x32a00192800c8c0064a0031900192800c620064a0032300191800c64006460031880191800c4e00645,
    0x33800191c00c8e006460032380191000c5c00635003238018a800c8e006280032380195000c940062e,
    0x32880193c00c80006510032700190000c8e00634003228018d000c8e00633003238018ac00c8e0064a,
    0x31980192800c74006490031d00192800c72006490031c80192800c6e006490031b80194400ca000640,
    0x31700192800c58006490031600192800c5a006490031680192800c68006490031a00192800c6600649,
    0x31a0018b400c680062c0031a00192800c6c006490031b00192800c6a006490031a80192800c5c00649,
    0x3168018a800c8a0062c0031500192c00c4e006310031b0018c400c6a00631003198018c400c680062e,
    0x31700191400c540062d003228018a800c58006450031500191400c5c0062a003228018b400c540062c,
    0x3198018b400c5800633003160018b400c6600649003228018b400c9400645003168018b400c8a0062c,
    0x3228018d400c5a0062d0031a80191400c8a006330031600191400c660062d003228018cc00c920062c,
    0x3248018b400c6c00645003228018d000c5c006450031a00192800c5800634003228018b400c6800645,
    0x31c80191400c58006390032500191400c6e00645003228018dc00c5a006450031b80191400c5c00636,
    0x31700190400c92006450031d00192800c8a0063a0032280191400c7400649003228018e400c8a00645,
    0x3248018b400c880064a0031680191000c8a0062d0032200191400c8a006420031680191400c8400645,
    0x32280191400c5a00645003160018b400c8a0062d0032280191000c8a0062e003220018b000c5800644,
    0x31600191400c8a0062e003228018b000c5c00645003228018b000c8a0062d0031600191400c940062d,
    0x3228018b000c8c006490031680191800c8a0062d0032300191400c8a006470031600191400c8e0062e,
    0x31500192800c5c006280032280191400c94006490032280191800c94006450032300192400c5800646,
    0x3228018a800c94006450031500192400c5c0062a003250018b800c5400649003160018a800c940062c,
    0x3250018b400c6a00649003170018cc00c92006450031600192400c5a0062c0032500191400c5800649,
    0x32500192800c5a0064a0032500191400c880064a0031600191000c940062d0031b00192800c5a00634,
    0x3228018e400c940062d0032300192800c8a006420032500191400c8a0064a0032280192800c940062c,
    0x32280191400c86006450031600191000c940062e003228018b400c58006460032500191400c860064a,
    0x31980192800c5a006280032500191400c820064a0031600191400c940062c0031680192800c5a0062c,
    0x31380191c00c880064400313801b4800c88006420036900191000c6a0064a0031600191800c940062e,
    0x31c80191000c90006330031880191400c72006440031a8018bc00c8a0062d003228018c400c5000643,
    0x32200189c0004000649003220018d400c92006440031a80191400c88006330032400191c00c9400644,
    0x31600008000c880062c0032280191000c66006480001000191c00c94006440031c80008000c8e00644,
    0x180b0000fc000420003b0001d00c008060020002c0032200189c00d98006310032380191000c4e00644,
    0x180680c03006012030080180580c02806022030100180a80c050000fa0007b0002f80804c0402803017,
    0x3258000800008000025000120001700007c0003c000168000a80004c000230002e80016c0601e0300e,
    0x32800008000c9e006400032780008000c9c006400032700008000c9a000200032600008000c9600640,
    0x32400195000c4e006530031380188400ca4006400032900008000ca2006400032880008000ca000640,
    0x3188018c000c5e0062e003168018b000c560062a003148018a000c4e006540032500195400c4e00654,
    0x32380191800c8a006440032180190800c820063a0031c8018e000c6e006360031a8018d000c6600632,
    0x1780009c00044006270032200195400c4e006440032a00189c00c88006530031380191000c9400648,
    0x186180c39c061ca030e30185480c29c0614a030a30185080c3ec0530c029850003f0001f0000c00005e,
    0x12d000864c0432402191010c800940804152000a5000530002b000146000a20184d00c264061e6030fc,
    0x154800978004b001d910012b80095800548002a5055b3000a8c004a60029900073000b44005a0025cb,
    0xef83000a383be0a0026e053c7077c10004d8002ab00155000a10004ce0029c0014d800980004c400264,
    0x150800a3c058e2002880015382ad9c0054c002a8001400009f8004fa1df080013d0009dc004ec000f8,
    0x1cc800e5c0072c00395001ca000e48007220023700098877c783be14001c2000e080070000530002a2,
    0x1db800ed80076202207001d4800ea00074e003a6001d2000e840073e0039e001ce800e70007360039a,
    0x337801a8400cdc003dd001ee00880800792003c8001e2800f1000786003bf001df000ef400776003b9,
    0x160000d80005800035000160000d00005800033000160000c80005800031000160000c00005c00030,
    0x140000a40008600028000148001080005000029000208000a00005800039000160000e00005800037,
    0x248000a00005200048000140000a40008e00028000148001180005000029000228000a00005200044,
    0x148001380005000029000268000a0000520004c000140000a40009600028000148001280005000029,
    0x140000a4000a600028000148001480005000029000288000a00005200050000140000a40009e00028,
    0x2c8000a00005200058000140000a4000ae000280001480015800050000290002a8000a00005200054,
    0x29800110000a60005600024000168000ae000440002180c054000a603014000148001680005000029,
    0x182580c1ec000940004400029000134000880004d0002180013400086000570002b000140000a000053,
    0x32d80146340bf180524d032cc81c4840cc4004ea4044f181646806132030c6029e6016d5c06166030b3,
    0x3a9981ba000a81007a7a03cc081894c0c60e0904a031aa818a540de280543902c780232a40fa840521d,
    0x180a00c0540b712030140180a813a3006028030150270480c0500602a0672c0180a0245340ab6c05272,
    0x29f7817e5c0602a065570180a00c0540a5ba030140180a81db5c06028030150312980c0500602a070b9]

/-- The entry of a character in an index `character, offset, length` into a pool. -/
def expansion? (index pool : PackedTable) (c : Char) : Option (List Char) :=
  match index.rowOf? c.toNat with
  | none => none
  | some row =>
    if index.cell row 0 = c.toNat then some (pool.slice (index.cell row 1) (index.cell row 2))
    else none

/-- The two or three parts of a Hangul syllable. -/
def hangulParts (code : Nat) : List Char :=
  let i := code - 0xAC00
  let tail := i % 28
  let parts := [Char.ofNat (0x1100 + i / 588), Char.ofNat (0x1161 + i % 588 / 28)]
  if tail = 0 then parts else parts ++ [Char.ofNat (0x11A7 + tail)]

/-- The full canonical decomposition of a character. -/
def decompose (c : Char) : List Char :=
  if c.toNat < 0xC0 then [c]
  else if 0xAC00 ≤ c.toNat ∧ c.toNat ≤ 0xD7A3 then hangulParts c.toNat
  else (expansion? canonicalRows canonicalPool c).getD [c]

/-- The full compatibility decomposition of a character. -/
def decomposeCompatibly (c : Char) : List Char :=
  if c.toNat < 0xA0 then [c]
  else (expansion? compatibleRows compatiblePool c).getD (decompose c)

end Daybook.Text
